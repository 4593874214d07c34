/-
**JSON documents and JSON values.** A document is what a reader reports of a text: the members of an
object in the order they stand in, a key as often as it stands there. A value is what a program keeps
of one: an object is a map, ordered by its keys, and the last member of a key is the one that counts.

* `Json`, `Json.normal` — documents, and the value of one as a document again;
* `Json.Canonical` — every object in it is ordered by its keys;
* `Value` — a canonical document; `Value.read` and `Value.document` are inverse.
-/

import Mathlib.Data.String.Basic
import Mathlib.Tactic

namespace Serde

/-- A number, as a reader classifies it; a double is kept by its bits. -/
inductive Number where
  | int (value : ℤ)
  | float (bits : UInt64)
deriving DecidableEq

/-- **A JSON document.** -/
inductive Json where
  | null
  | bool (value : Bool)
  | number (value : Number)
  | string (text : String)
  | array (items : List Json)
  | object (members : List (String × Json))

namespace Json

/-! ### Values -/

/-- Insert a member into a map, unless its key has one. -/
def place (key : String) (value : Json) : List (String × Json) → List (String × Json)
  | [] => [(key, value)]
  | (other, held) :: rest =>
      if key < other then (key, value) :: (other, held) :: rest
      else if key = other then (other, held) :: rest
      else (other, held) :: place key value rest

mutual

/-- **The value of a document**: every object is ordered by its keys, with the last member of each. -/
def normal : Json → Json
  | null => null
  | bool value => bool value
  | number value => number value
  | string text => string text
  | array items => array (normalItems items)
  | object members => object (normalMembers members)

def normalItems : List Json → List Json
  | [] => []
  | item :: rest => item.normal :: normalItems rest

def normalMembers : List (String × Json) → List (String × Json)
  | [] => []
  | (key, value) :: rest => place key value.normal (normalMembers rest)

end

/-- The keys ascend. -/
def Ordered (members : List (String × Json)) : Prop :=
  members.Pairwise fun first second => first.1 < second.1

mutual

/-- **A document in which every object is ordered by its keys.** -/
def Canonical : Json → Prop
  | array items => CanonicalItems items
  | object members => Ordered members ∧ CanonicalMembers members
  | _ => True

def CanonicalItems : List Json → Prop
  | [] => True
  | item :: rest => item.Canonical ∧ CanonicalItems rest

def CanonicalMembers : List (String × Json) → Prop
  | [] => True
  | (_, value) :: rest => value.Canonical ∧ CanonicalMembers rest

end

/-! ### The value of a document is canonical -/

theorem mem_place {key : String} {value : Json} {members : List (String × Json)}
    {member : String × Json} (found : member ∈ place key value members) :
    member = (key, value) ∨ member ∈ members := by
  induction members with
  | nil => exact .inl (List.mem_singleton.mp found)
  | cons head rest ih =>
      obtain ⟨other, held⟩ := head
      unfold place at found
      split_ifs at found with before same
      · exact List.mem_cons.mp found
      · exact .inr found
      · rcases List.mem_cons.mp found with here | later
        · exact .inr (here ▸ List.mem_cons_self)
        · exact (ih later).imp_right (List.mem_cons_of_mem _)

theorem ordered_place (key : String) (value : Json) {members : List (String × Json)}
    (ordered : Ordered members) : Ordered (place key value members) := by
  induction members with
  | nil => exact List.pairwise_singleton _ _
  | cons head rest ih =>
      obtain ⟨other, held⟩ := head
      obtain ⟨below, tail⟩ := List.pairwise_cons.mp ordered
      unfold place
      split_ifs with before same
      · refine List.pairwise_cons.mpr ⟨fun member found => ?_, ordered⟩
        rcases List.mem_cons.mp found with rfl | later
        · exact before
        · exact before.trans (below member later)
      · exact ordered
      · refine List.pairwise_cons.mpr ⟨fun member found => ?_, ih tail⟩
        rcases mem_place found with rfl | later
        · exact lt_of_le_of_ne (not_lt.mp before) (Ne.symm same)
        · exact below member later

theorem canonicalMembers_place {key : String} {value : Json} {members : List (String × Json)}
    (head : value.Canonical) (canonical : CanonicalMembers members) :
    CanonicalMembers (place key value members) := by
  induction members with
  | nil => exact ⟨head, trivial⟩
  | cons first rest ih =>
      unfold place
      split_ifs
      · exact ⟨head, canonical⟩
      · exact canonical
      · exact ⟨canonical.1, ih canonical.2⟩

theorem ordered_normalMembers (members : List (String × Json)) :
    Ordered (normalMembers members) := by
  induction members with
  | nil => exact List.Pairwise.nil
  | cons head rest ih => exact ordered_place _ _ ih

mutual

theorem canonical_normal : ∀ document : Json, document.normal.Canonical
  | null => trivial
  | bool _ => trivial
  | number _ => trivial
  | string _ => trivial
  | array items => canonical_normalItems items
  | object members => ⟨ordered_normalMembers members, canonical_normalMembers members⟩

theorem canonical_normalItems : ∀ items : List Json, CanonicalItems (normalItems items)
  | [] => trivial
  | item :: rest => ⟨canonical_normal item, canonical_normalItems rest⟩

theorem canonical_normalMembers :
    ∀ members : List (String × Json), CanonicalMembers (normalMembers members)
  | [] => trivial
  | (_, value) :: rest =>
      canonicalMembers_place (canonical_normal value) (canonical_normalMembers rest)

end

/-! ### A canonical document is its own value -/

theorem place_of_below {key : String} {value : Json} {members : List (String × Json)}
    (below : ∀ member ∈ members, key < member.1) :
    place key value members = (key, value) :: members := by
  cases members with
  | nil => rfl
  | cons head rest => exact if_pos (below head List.mem_cons_self)

mutual

theorem normal_of_canonical : ∀ document : Json, document.Canonical → document.normal = document
  | null, _ => rfl
  | bool _, _ => rfl
  | number _, _ => rfl
  | string _, _ => rfl
  | array items, canonical => congrArg array (normalItems_of_canonical items canonical)
  | object members, canonical =>
      congrArg object (normalMembers_of_canonical members canonical.1 canonical.2)

theorem normalItems_of_canonical :
    ∀ items : List Json, CanonicalItems items → normalItems items = items
  | [], _ => rfl
  | item :: rest, canonical =>
      congrArg₂ List.cons (normal_of_canonical item canonical.1)
        (normalItems_of_canonical rest canonical.2)

theorem normalMembers_of_canonical : ∀ members : List (String × Json), Ordered members →
    CanonicalMembers members → normalMembers members = members
  | [], _, _ => rfl
  | (key, value) :: rest, ordered, canonical => by
      obtain ⟨below, tail⟩ := List.pairwise_cons.mp ordered
      rw [normalMembers, normal_of_canonical value canonical.1,
        normalMembers_of_canonical rest tail canonical.2]
      exact place_of_below below

end

/-- The document is an object. -/
def isObject : Json → Bool
  | object _ => true
  | _ => false

end Json

/-! ### The values a program keeps -/

/-- **A JSON value**: a document every object of which is a map. -/
structure Value where
  document : Json
  canonical : document.Canonical

namespace Value

/-- The value of a document. -/
def read (document : Json) : Value := ⟨document.normal, Json.canonical_normal document⟩

@[ext]
theorem ext {first second : Value} (same : first.document = second.document) : first = second := by
  cases first
  cases second
  congr

/-- **A value is read back from its own document.** -/
@[simp]
theorem read_document (value : Value) : read value.document = value :=
  Value.ext (Json.normal_of_canonical value.document value.canonical)

end Value

end Serde
