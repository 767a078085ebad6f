import Scribe.Settings.Basic
import Scribe.Settings.Error
import Scribe.Toml.Table

/-!
# Settings from a table

How the values of a table become settings. Keys are taken in ascending order, and the first fault is
reported.

* `Refusal` — why a table is refused;
* `Decode.indent`, `Decode.count`, `Decode.text`, `Decode.policy` — the single values;
* `DocumentSettings.ofItem`, `FormatSettings.ofItem` — the sections;
* `Settings.ofMembers` — all settings.
-/

namespace Scribe

open Text Toml

/-- Why a table is refused: a value has the wrong type, or there is a fault with a place. -/
inductive Refusal where
  | wrongType
  | fault (f : SettingFault) (span : Span)
deriving DecidableEq, Repr

/-! ## Single values -/

namespace Decode

/-- The least integer that does not fit into 64 bits with a sign. -/
def signedEnd : Int := 0x8000000000000000

/-- The least integer that does not fit into 64 bits without a sign. -/
def unsignedEnd : Int := 0x10000000000000000

/-- Whether a number has a machine representation, with a sign or without. -/
def isMachineScalar : Scalar → Bool
  | .integer none => false
  | .integer (some n) => -signedEnd ≤ n && n < unsignedEnd
  | .float exceedsRange => !exceedsRange
  | .boolean _ | .moment => true

/-- Whether every number in a value has a machine representation. -/
def isMachineItem : Item → Bool
  | .string _ => true
  | .scalar s => isMachineScalar s
  | .array _ items => (items.map fun item => isMachineItem item.value).all id
  | .table _ members => (members.map fun m => isMachineItem m.2.value).all id
termination_by item => sizeOf item
decreasing_by
  · have inList := List.sizeOf_lt_of_mem ‹_ ∈ items›
    have inItem : sizeOf item.value < sizeOf item := by
      cases item
      simp only [Spanned.mk.sizeOf_spec]
      omega
    simp only [Item.array.sizeOf_spec]
    omega
  · have inList := List.sizeOf_lt_of_mem ‹_ ∈ members›
    have inItem : sizeOf m.2.value < sizeOf m := by
      obtain ⟨key, item⟩ := m
      cases item
      simp only [Prod.mk.sizeOf_spec, Spanned.mk.sizeOf_spec]
      omega
    simp only [Item.table.sizeOf_spec]
    omega

/-- An indentation unit: a width within the range, or the word for tabs. A value is looked at only if
all its numbers have machine representations. Faults are placed at `span`. -/
def indent (span : Span) (item : Spanned Item) : Except Refusal Indent :=
  if !isMachineItem item.value then .error .wrongType
  else
    match item.value with
    | .scalar (.integer (some n)) =>
      if Indent.minWidth ≤ n ∧ n ≤ Indent.maxWidth then .ok (.spaces n.toNat)
      else if n < signedEnd then .error (.fault (.indentWidth n) span)
      else .error (.fault .indentForm span)
    | .string word =>
      if word = "tab".toList then .ok .tab else .error (.fault (.indentWord word) span)
    | _ => .error (.fault .indentForm span)

/-- A count that fits into 64 bits. -/
def count (item : Spanned Item) : Except Refusal Nat :=
  match item.value with
  | .scalar (.integer (some n)) =>
    if 0 ≤ n ∧ n < unsignedEnd then .ok n.toNat else .error .wrongType
  | _ => .error .wrongType

/-- A string. -/
def text (item : Spanned Item) : Except Refusal Text :=
  match item.value with
  | .string t => .ok t
  | _ => .error .wrongType

/-- The policy of a name that is written at `span`. -/
def policyName (name : Text) (span : Span) : Except Refusal ReformatPolicy :=
  match ReformatPolicy.ofName? name with
  | some policy => .ok policy
  | none => .error (.fault (.unknownPolicy name) span)

/-- A policy: its name, or a table with its name as the only key and an empty value. -/
def policy (item : Spanned Item) : Except Refusal ReformatPolicy :=
  match item.value with
  | .string name => policyName name item.span
  | .table _ [(key, value)] => do
    let policy ← policyName key.value key.span
    match value.value with
    | .table _ [] | .array _ [] => return policy
    | _ => .error .wrongType
  | _ => .error .wrongType

end Decode

/-! ## Sections -/

/-- The key under which a date or a time shows its content when it is looked at as a table. -/
def momentKey : Text := "$__toml_private_datetime".toList

/-- How a section is read: its fields, and how the value of a field is taken over. Faults of a value
are placed at the given span. -/
structure SectionReader (σ : Type) where
  fields : List Text
  set : Text → Span → Spanned Item → σ → Except Refusal σ

namespace SectionReader

variable {σ : Type}

/-- Takes over the value of a key, which has to be a field. -/
def setKey (r : SectionReader σ) (s : σ) (m : Key × Spanned Item) : Except Refusal σ :=
  if m.1.value ∈ r.fields then r.set m.1.value m.2.span m.2 s
  else .error (.fault (.unknownField m.1.value r.fields) m.1.span)

/-- A section. It is a table, or an array with the values of its fields in their order. Fields at the
end may be missing there, and values beyond the last field are not looked at. -/
def read (r : SectionReader σ) (initial : σ) (item : Spanned Item) : Except Refusal σ :=
  match item.value with
  | .table _ members => (Members.sorted members).foldlM r.setKey initial
  | .array _ items =>
    (r.fields.zip items).foldlM (fun s (field, value) => r.set field item.span value s) initial
  | .scalar .moment => .error (.fault (.unknownField momentKey r.fields) item.span)
  | _ => .error .wrongType

end SectionReader

namespace DocumentSettings

/-- The fields of the section, in order. -/
def reader : SectionReader DocumentSettings where
  fields := ["name".toList, "header".toList, "reformat".toList]
  set field _ value s := do
    if field = "name".toList then return { s with name := some (← Decode.text value) }
    else if field = "header".toList then return { s with header := (← Decode.text value) }
    else return { s with reformat := (← Decode.policy value) }

/-- The section that a value describes. -/
def ofItem (item : Spanned Item) : Except Refusal DocumentSettings := reader.read {} item

end DocumentSettings

namespace FormatSettings

/-- The fields of the section, in order. -/
def reader : SectionReader FormatSettings where
  fields := ["indent".toList, "max_blank_lines".toList]
  set field span value s := do
    if field = "indent".toList then return { s with indent := (← Decode.indent span value) }
    else return { s with maxBlankLines := (← Decode.count value) }

/-- The section that a value describes. -/
def ofItem (item : Spanned Item) : Except Refusal FormatSettings := reader.read {} item

end FormatSettings

namespace Settings

/-- The sections, in order. -/
def reader : SectionReader Settings where
  fields := ["document".toList, "format".toList]
  set field _ value s := do
    if field = "document".toList then
      return { s with document := (← DocumentSettings.ofItem value) }
    else return { s with format := (← FormatSettings.ofItem value) }

/-- The settings that a table describes. -/
def ofMembers (members : Members) : Except Refusal Settings :=
  (Members.sorted members).foldlM reader.setKey {}

end Settings

end Scribe
