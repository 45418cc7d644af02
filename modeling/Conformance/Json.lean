/-!
# JSON values

A JSON document as a tree that keeps what the text says: members stay in their order and a key may
occur twice. `Json.Agrees` compares two trees by what they mean: an object is then the map that
gives each key the value of its last member.
-/

namespace Conformance

/-- A JSON value. A number is an integer of sixty-four bits, signed or not, or else a double given
by its bits, with one zero. -/
inductive Json where
  | null
  | bool (b : Bool)
  | int (n : Int)
  | double (bits : UInt64)
  | string (s : String)
  | array (items : List Json)
  | object (members : List (String × Json))
  deriving Repr, Inhabited

namespace Json

mutual

/-- Are the two trees one and the same? -/
def same : Json → Json → Bool
  | .null, .null => true
  | .bool a, .bool b => a == b
  | .int a, .int b => a == b
  | .double a, .double b => a == b
  | .string a, .string b => a == b
  | .array a, .array b => sameItems a b
  | .object a, .object b => sameMembers a b
  | _, _ => false

/-- Are the two lists of trees one and the same? -/
def sameItems : List Json → List Json → Bool
  | [], [] => true
  | a :: as, b :: bs => same a b && sameItems as bs
  | _, _ => false

/-- Are the two lists of members one and the same? -/
def sameMembers : List (String × Json) → List (String × Json) → Bool
  | [], [] => true
  | (j, a) :: as, (k, b) :: bs => j == k && same a b && sameMembers as bs
  | _, _ => false

end

mutual

theorem same_iff : ∀ a b : Json, same a b = true ↔ a = b
  | .null, b => by cases b <;> simp [same]
  | .bool _, b => by cases b <;> simp [same]
  | .int _, b => by cases b <;> simp [same]
  | .double _, b => by cases b <;> simp [same]
  | .string _, b => by cases b <;> simp [same]
  | .array as, b => by cases b <;> simp [same, sameItems_iff as]
  | .object as, b => by cases b <;> simp [same, sameMembers_iff as]

theorem sameItems_iff : ∀ as bs : List Json, sameItems as bs = true ↔ as = bs
  | [], bs => by cases bs <;> simp [sameItems]
  | a :: as, bs => by
    cases bs with
    | nil => simp [sameItems]
    | cons b bs => simp [sameItems, same_iff a b, sameItems_iff as bs]

theorem sameMembers_iff : ∀ as bs : List (String × Json), sameMembers as bs = true ↔ as = bs
  | [], bs => by cases bs <;> simp [sameMembers]
  | (j, a) :: as, bs => by
    cases bs with
    | nil => simp [sameMembers]
    | cons b bs =>
      obtain ⟨k, b⟩ := b
      simp [sameMembers, same_iff a b, sameMembers_iff as bs]

end

instance : DecidableEq Json := fun a b => decidable_of_iff _ (same_iff a b)

/-- Puts a member into members that rise by key, unless its key is there already. -/
def insertNew (k : String) (v : Json) : List (String × Json) → List (String × Json)
  | [] => [(k, v)]
  | (j, w) :: rest =>
    if k < j then (k, v) :: (j, w) :: rest
    else if k = j then (j, w) :: rest
    else (j, w) :: insertNew k v rest

mutual

/-- The tree in which every object lists its keys once, in rising order, each with its last value.
-/
def normal : Json → Json
  | .null => .null
  | .bool b => .bool b
  | .int n => .int n
  | .double bits => .double bits
  | .string s => .string s
  | .array items => .array (normalItems items)
  | .object members => .object (normalMembers members)

/-- Normal forms of all items. -/
def normalItems : List Json → List Json
  | [] => []
  | v :: rest => normal v :: normalItems rest

/-- The members by key; a later member with the same key stands before an earlier one. -/
def normalMembers : List (String × Json) → List (String × Json)
  | [] => []
  | (k, v) :: rest => insertNew k (normal v) (normalMembers rest)

end

/-- The two trees mean the same: arrays agree item by item and objects key by key, whatever the
order of their members. -/
def Agrees (v w : Json) : Prop := v.normal = w.normal

instance (v w : Json) : Decidable (Agrees v w) := inferInstanceAs (Decidable (_ = _))

theorem Agrees.refl (v : Json) : Agrees v v := rfl

end Json

end Conformance
