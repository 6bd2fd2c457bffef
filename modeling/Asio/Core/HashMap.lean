import Asio.Lib.Loop
import Asio.Lib.NodeList
import Mathlib.Algebra.Ring.Int.Defs
import Mathlib.Data.List.Nodup
import Mathlib.Logic.Function.Basic

/-! # The hash map

`asio::detail::hash_map`: all entries are nodes of one list, `values_`, in which
the entries of a bucket are neighbours, and a bucket is a pair of iterators into
that list. Erased nodes are kept on a list of spares and get a new entry assigned
when they are used again. A node is known by its address.
-/

namespace Asio.Core

/-- `calculate_hash_value`. -/
class HashValue (K : Type*) where
  calculateHashValue : K → Nat

/-- `static_cast<std::size_t>(i)`. -/
instance : HashValue Int32 where
  calculateHashValue i := (i.toInt % 2 ^ 64).toNat

/-- How a type is default-constructed, copied and assigned to. -/
class Copying (V : Type*) where
  default : V
  copy : V → V
  assign : V → V → V

/-- A type whose copies and assigned values are equal to the originals. -/
class Pod (V : Type*) extends Copying V where
  copy_eq : ∀ v, copy v = v
  assign_eq : ∀ old v, assign old v = v

instance : Pod Nat where
  default := 0
  copy v := v
  assign _ v := v
  copy_eq _ := rfl
  assign_eq _ _ := rfl

/-- `hash_map::bucket_type`: iterators, of which `none` is `values_.end()`. -/
structure Bucket (Node : Type*) where
  first : Option Node
  last : Option Node
  deriving DecidableEq, Repr

/-- `buckets_[i].first = buckets_[i].last = values_.end()`. -/
def Bucket.empty {Node : Type*} : Bucket Node := ⟨none, none⟩

/-- `hash_map`, with the contents of the nodes: `key` and `value` are the members
of the pair that a node holds. -/
structure HashMap (Node K V : Type*) where
  size : Nat
  values : List Node
  spares : List Node
  key : Node → K
  value : Node → V
  buckets : Nat → Bucket Node
  numBuckets : Nat

namespace HashMap

variable {Node K V : Type*} [DecidableEq Node] [DecidableEq K] [HashValue K]

/-- The constructor, over memory with any contents. -/
def new (key : Node → K) (value : Node → V) : HashMap Node K V where
  size := 0
  values := []
  spares := []
  key := key
  value := value
  buckets _ := .empty
  numBuckets := 0

/-- `sizes` of `hash_size`. -/
def sizes : List Nat :=
  [3, 13, 23, 53, 97, 193, 389, 769, 1543, 3079, 6151, 12289, 24593, 49157, 98317, 196613, 393241,
    786433, 1572869, 3145739, 6291469, 12582917, 25165843]

/-- The loop of `hash_size`: the last size is that of every larger number. -/
def hashSizeFrom (numElems : Nat) : Nat → List Nat → Nat
  | size, [] => size
  | size, next :: rest => if numElems < size then size else hashSizeFrom numElems next rest

/-- `hash_size`. -/
def hashSize (numElems : Nat) : Nat :=
  match sizes with
  | [] => 0
  | size :: rest => hashSizeFrom numElems size rest

variable (map : HashMap Node K V)

/-- `it->second` written. -/
def write (node : Node) (value : V) : HashMap Node K V :=
  { map with value := Function.update map.value node value }

/-- `calculate_hash_value(k) % num_buckets_`. -/
def bucketOf (k : K) : Nat := HashValue.calculateHashValue k % map.numBuckets

/-- `buckets_[bucket]` written. -/
def setBucket (bucket : Nat) (range : Bucket Node) : HashMap Node K V :=
  { map with buckets := Function.update map.buckets bucket range }

/-- A pass of the loops that look for a key in the nodes up to `endIt`. At the end
of the list there is no entry to look at. -/
def scanBody (k : K) (endIt : Option Node) (it : Option Node) :
    Loop.Pass (Option Node) (Option Node) :=
  if it = endIt then .leave none
  else match it with
    | none => .blocked
    | some node =>
        if map.key node = k then .leave (some node) else .again (NodeList.next map.values it)

/-- The loop, which passes every node once: none when it goes astray. -/
def scan (k : K) (endIt it : Option Node) : Option (Option Node) :=
  Loop.evaluate (map.scanBody k endIt) (map.values.length + 1) it

/-- `find`. -/
def find (k : K) : Option (Option Node) :=
  if map.numBuckets ≠ 0 then
    let bucket := map.buckets (map.bucketOf k)
    if bucket.first = none then some none
    else map.scan k (NodeList.next map.values bucket.last) bucket.first
  else some none

/-- A pass of the loop that puts the values back into the hash, from the node
`iter`. -/
def rehashBody (state : HashMap Node K V × Option Node) :
    Loop.Pass (HashMap Node K V × Option Node) (HashMap Node K V) :=
  let (map, iter) := state
  match iter with
  | none => .leave map
  | some node =>
      let bucket := map.bucketOf (map.key node)
      let range := map.buckets bucket
      if range.last = none then
        .again (map.setBucket bucket ⟨iter, iter⟩, NodeList.next map.values iter)
      else
        let last := NodeList.next map.values range.last
        if last = iter then
          .again (map.setBucket bucket { range with last }, NodeList.next map.values iter)
        else
          let values := NodeList.insert (map.values.erase node) last node
          let following := NodeList.next map.values iter
          .again ({ map.setBucket bucket { range with last := NodeList.prev values last } with values },
            following)

/-- `rehash`; none when the assertion fails. -/
def rehash (numBuckets : Nat) : Option (HashMap Node K V) :=
  if numBuckets = map.numBuckets then some map
  else if numBuckets = 0 then none
  else
    let map := { map with numBuckets, buckets := fun _ => .empty }
    Loop.evaluate rehashBody (map.values.length + 1) (map, map.values.head?)

variable [Inhabited K] [Copying V]

/-- `values_insert`: `allocated` is the node that `std::list` gets when there is no
spare one. -/
def valuesInsert (allocated : Node) (it : Option Node) (v : K × V) :
    HashMap Node K V × Option Node :=
  match map.spares with
  | [] =>
      ({ map with
          values := NodeList.insert map.values it allocated
          key := Function.update map.key allocated v.1
          value := Function.update map.value allocated (Copying.copy v.2) }, some allocated)
  | spare :: spares =>
      let values := NodeList.insert map.values it spare
      ({ map with
          values
          spares
          key := Function.update map.key spare v.1
          value := Function.update map.value spare (Copying.assign (map.value spare) v.2) },
        NodeList.prev values it)

/-- `values_erase`. -/
def valuesErase (node : Node) : HashMap Node K V :=
  { map with
    values := map.values.erase node
    spares := node :: map.spares
    key := Function.update map.key node default
    value := Function.update map.value node (Copying.assign (map.value node) Copying.default) }

/-- `insert` with enough buckets: the entry, and whether it is new. -/
def insertHashed (allocated : Node) (v : K × V) :
    Option (HashMap Node K V × Option Node × Bool) :=
  let bucket := map.bucketOf v.1
  let range := map.buckets bucket
  if range.first = none then
    let (map, it) := map.valuesInsert allocated none v
    some ({ map.setBucket bucket ⟨it, it⟩ with size := map.size + 1 }, it, true)
  else
    let endIt := NodeList.next map.values range.last
    match map.scan v.1 endIt range.first with
    | none => none
    | some (some node) => some (map, some node, false)
    | some none =>
        let (map, it) := map.valuesInsert allocated endIt v
        some ({ map.setBucket bucket { range with last := it } with size := map.size + 1 }, it, true)

/-- `insert`. -/
def insert (allocated : Node) (v : K × V) : Option (HashMap Node K V × Option Node × Bool) :=
  if map.size + 1 ≥ map.numBuckets then
    (map.rehash (hashSize (map.size + 1))).bind fun map => map.insertHashed allocated v
  else map.insertHashed allocated v

/-- `erase` of an iterator; none when an assertion fails. -/
def eraseIt (it : Option Node) : Option (HashMap Node K V) :=
  match it with
  | none => none
  | some node =>
      if map.numBuckets = 0 then none
      else
        let bucket := map.bucketOf (map.key node)
        let range := map.buckets bucket
        let isFirst := it = range.first
        let isLast := it = range.last
        let range :=
          if isFirst ∧ isLast then .empty
          else if isFirst then { range with first := NodeList.next map.values range.first }
          else if isLast then { range with last := NodeList.prev map.values range.last }
          else range
        let map := (map.setBucket bucket range).valuesErase node
        some { map with size := map.size - 1 }

/-- `erase` of a key. -/
def eraseKey (k : K) : Option (HashMap Node K V) :=
  match map.find k with
  | none => none
  | some none => some map
  | some (some node) => map.eraseIt (some node)

/-- `clear`. -/
def clear : HashMap Node K V :=
  { map with values := [], size := 0, buckets := fun _ => .empty }

/-- The nodes from an iterator on, in at most so many steps of `++it`. -/
def iterateFrom : Nat → Option Node → List Node
  | _, none => []
  | 0, some node => [node]
  | steps + 1, some node => node :: iterateFrom steps (NodeList.next map.values (some node))

/-- The nodes that `for (it = begin(); it != end(); ++it)` visits. -/
def iterate : List Node := map.iterateFrom map.values.length map.values.head?

end HashMap

end Asio.Core
