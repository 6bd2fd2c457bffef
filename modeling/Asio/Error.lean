import Mathlib.Data.PNat.Defs

/-! # Error codes

`asio::error_code`: a value and the category it belongs to. The value zero means
success, which is reported as `error_code()`.
-/

namespace Asio

/-- The categories of `asio/error/error.hpp`. -/
inductive ErrorCategory where
  | system
  | netdb
  | addrinfo
  | misc
  deriving DecidableEq, Repr

/-- `asio::error_code`. -/
structure ErrorCode where
  value : Int
  category : ErrorCategory
  canonical : value = 0 → category = .system := by decide
  deriving DecidableEq, Repr

namespace ErrorCode

/-- `error_code()`. -/
def success : ErrorCode where
  value := 0
  category := .system

/-- The test `!!ec`. -/
def failed (ec : ErrorCode) : Bool := decide (ec.value ≠ 0)

@[simp] theorem failed_success : success.failed = false := rfl

/-- What is not an error is `error_code()`. -/
theorem eq_success {ec : ErrorCode} (succeeded : ec.failed = false) : ec = success := by
  obtain ⟨value, category, canonical⟩ := ec
  have zero : value = 0 := by simpa [failed] using succeeded
  subst zero
  obtain rfl := canonical rfl
  rfl

/-- `error::operation_aborted`, the system's `ECANCELED`. -/
def operationAborted : ErrorCode where
  value := 125
  category := .system

/-- `error::would_block`, the system's `EWOULDBLOCK`. -/
def wouldBlock : ErrorCode where
  value := 11
  category := .system

/-- `error::try_again`, the system's `EAGAIN`. -/
def tryAgain : ErrorCode where
  value := 11
  category := .system

/-- `error::timed_out`, the system's `ETIMEDOUT`. -/
def timedOut : ErrorCode where
  value := 110
  category := .system

/-- `error::bad_descriptor`, the system's `EBADF`. -/
def badDescriptor : ErrorCode where
  value := 9
  category := .system

/-- `error::interrupted`, the system's `EINTR`. -/
def interrupted : ErrorCode where
  value := 4
  category := .system

/-- `error::invalid_argument`, the system's `EINVAL`. -/
def invalidArgument : ErrorCode where
  value := 22
  category := .system

/-- `error::already_open`. -/
def alreadyOpen : ErrorCode where
  value := 1
  category := .misc

/-- `error::eof`. -/
def eof : ErrorCode where
  value := 2
  category := .misc

/-- `error::not_found`. -/
def notFound : ErrorCode where
  value := 3
  category := .misc

/-- `error::fd_set_failure`. -/
def fdSetFailure : ErrorCode where
  value := 4
  category := .misc

/-- An `errno` as an error code. -/
def ofErrno (errno : ℕ+) : ErrorCode where
  value := (errno : Nat)
  category := .system
  canonical _ := rfl

@[simp] theorem ofErrno_failed (errno : ℕ+) : (ofErrno errno).failed = true := by
  have nonzero : ((errno : Nat) : Int) ≠ 0 := Int.natCast_ne_zero.mpr errno.ne_zero
  exact decide_eq_true nonzero

@[simp] theorem failed_notFound : notFound.failed = true := rfl

end ErrorCode

end Asio
