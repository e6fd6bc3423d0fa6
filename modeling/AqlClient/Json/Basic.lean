import AqlClient.Named
import AqlClient.Numeric.Binary64
import AqlClient.Text.CodePoint

/-!
# JSON values

What a server sends. Integers are exact and of any size, numbers with a fraction or an
exponent are double-precision numbers (infinities and NaN among them), texts are lists of
code points, and the fields of an object keep their order (`Fields`). `Json.same` decides
equality, the order of the fields included.
-/

namespace AqlClient

/-- A JSON value. -/
inductive Json where
  | null
  | bool (b : Bool)
  | int (i : Int)
  | float (x : Binary64)
  | str (t : Text)
  | arr (items : List Json)
  | obj (fields : List (Text × Json))
  deriving Inhabited, Repr

/-- The fields of an object, in order. -/
abbrev Fields := Named Json Text

/-- The value of a field. -/
def Fields.get? (fields : Fields) (name : String) : Option Json := Named.get? fields name

namespace Json

/-! ### Views -/

/-- The integer that a value is; a flag is none. -/
def int? : Json → Option Int
  | .int i => some i
  | _ => none

/-- The text that a value is, as it is shown. -/
def str? : Json → Option String
  | .str t => some t.shown
  | _ => none

/-- The items of an array. -/
def arr? : Json → Option (List Json)
  | .arr items => some items
  | _ => none

/-- The fields of an object. -/
def obj? : Json → Option Fields
  | .obj fields => some fields
  | _ => none

/-! ### Equality -/

mutual

/-- Whether two values are the same, in the order of their fields too. -/
def same : Json → Json → Bool
  | .null, .null => true
  | .bool a, .bool b => a == b
  | .int a, .int b => a == b
  | .float a, .float b => a == b
  | .str a, .str b => a == b
  | .arr a, .arr b => sameItems a b
  | .obj a, .obj b => sameFields a b
  | _, _ => false

/-- Whether two lists of values are the same. -/
def sameItems : List Json → List Json → Bool
  | [], [] => true
  | a :: as, b :: bs => a.same b && sameItems as bs
  | _, _ => false

/-- Whether two lists of fields are the same. -/
def sameFields : List (Text × Json) → List (Text × Json) → Bool
  | [], [] => true
  | (j, a) :: as, (k, b) :: bs => j == k && a.same b && sameFields as bs
  | _, _ => false

end

mutual

/-- **`same` decides equality.** -/
theorem same_iff : ∀ a b : Json, a.same b = true ↔ a = b
  | .null, b => by cases b <;> simp [same]
  | .bool _, b => by cases b <;> simp [same]
  | .int _, b => by cases b <;> simp [same]
  | .float _, b => by cases b <;> simp [same]
  | .str _, b => by cases b <;> simp [same]
  | .arr xs, b => by
    cases b with
    | arr ys => simp [same, sameItems_iff xs ys]
    | _ => simp [same]
  | .obj xs, b => by
    cases b with
    | obj ys => simp [same, sameFields_iff xs ys]
    | _ => simp [same]

theorem sameItems_iff : ∀ as bs : List Json, sameItems as bs = true ↔ as = bs
  | [], bs => by cases bs <;> simp [sameItems]
  | a :: as, bs => by
    cases bs with
    | nil => simp [sameItems]
    | cons b bs => simp [sameItems, same_iff a b, sameItems_iff as bs]

theorem sameFields_iff : ∀ as bs : List (Text × Json), sameFields as bs = true ↔ as = bs
  | [], bs => by cases bs <;> simp [sameFields]
  | (j, a) :: as, bs => by
    cases bs with
    | nil => simp [sameFields]
    | cons b bs => obtain ⟨k, b⟩ := b; simp [sameFields, same_iff a b, sameFields_iff as bs]

end

instance : DecidableEq Json := fun a b => decidable_of_iff _ (same_iff a b)

end Json

end AqlClient
