import Docstore.Fault
import Docstore.Number.Shortest

/-!
# Values in messages

How a value is shown inside a message (`display`), and the text of a value on its own (`plainText`),
which differs for texts, dates, numbers and members of the fixed vocabularies.  Both fail if an
integer anywhere in the value has more digits than are ever written (`isWritable`); `spelling` and
`plainSpelling` are the texts apart from that.

Main statements: a value is shown by its spelling exactly if it is writable (`display_eq_ok`,
`plainText_eq_ok`), and there is one fault otherwise (`display_eq_error`, `plainText_eq_error`).
-/

namespace Docstore

namespace Timestamp

/-- A span of time, given in microseconds, as messages show it: whole days, then seconds and
microseconds, which are never negative. -/
def spanText (span : Int) : String :=
  let perDay : Int := 86400 * perSecond
  let days := span.fdiv perDay
  let rest := (span - days * perDay).toNat
  let parts := [("days", Text.ofInt days, days != 0),
    ("seconds", Text.ofNat (rest / perSecond), rest / perSecond != 0),
    ("microseconds", Text.ofNat (rest % perSecond), rest % perSecond != 0)]
  let shown := parts.filterMap fun (name, text, keep) =>
    if keep then some (name ++ "=" ++ text) else none
  "datetime.timedelta(" ++ (if shown.isEmpty then "0" else ", ".intercalate shown) ++ ")"

/-- A timestamp as messages show it: seconds and microseconds only where they are not zero. -/
def display (t : Timestamp) : String :=
  let base := [t.date.year, t.date.month, t.date.day, t.hour, t.minute]
  let fine :=
    if t.microsecond ≠ 0 then [t.second, t.microsecond]
    else if t.second ≠ 0 then [t.second] else []
  let zone := match t.offset with
    | none => []
    | some offset =>
      ["tzinfo=" ++ if offset = 0 then "datetime.timezone.utc"
        else "datetime.timezone(" ++ spanText offset ++ ")"]
  "datetime.datetime(" ++ ", ".intercalate ((base ++ fine).map Text.ofNat ++ zone) ++ ")"

end Timestamp

namespace Date

def display (d : Date) : String :=
  "datetime.date(" ++ ", ".intercalate ([d.year, d.month, d.day].map Text.ofNat) ++ ")"

end Date

namespace Operator

def qualified (op : Operator) : String :=
  "FilterOperator." ++ op.label

end Operator

namespace Connector

def qualified (c : Connector) : String :=
  "Connector." ++ c.text

end Connector

namespace Direction

def qualified (d : Direction) : String :=
  "SortDirection." ++ d.label

end Direction

namespace Value

/-- A member of a fixed vocabulary as messages show it. -/
def memberText (qualified text : String) : String :=
  "<" ++ qualified ++ ": " ++ Text.quoted text ++ ">"

def boolText (b : Bool) : String :=
  if b then "True" else "False"

/-- The shown items of a tuple in parentheses, with a comma after a lone one. -/
def tupleText (shown : List String) : String :=
  match shown with
  | [only] => "(" ++ only ++ ",)"
  | _ => "(" ++ ", ".intercalate shown ++ ")"

/-- The shown elements of a set in braces; an empty set is named. -/
def setText (frozen : Bool) (shown : List String) : String :=
  let body := if shown.isEmpty then "" else "\x7b" ++ ", ".intercalate shown ++ "\x7d"
  if frozen then "frozenset(" ++ body ++ ")"
  else if shown.isEmpty then "set()" else body

mutual

/-- Whether no integer in a value has more digits than are ever written. -/
def isWritable : Value → Bool
  | .int n => Text.isWritable n
  | .list items | .tuple items | .set _ items => areWritable items
  | .dict entries => entriesAreWritable entries
  | .condition _ operand _ _ => operand.isWritable
  | _ => true

def areWritable : List Value → Bool
  | [] => true
  | v :: rest => v.isWritable && areWritable rest

def entriesAreWritable : List (Value × Value) → Bool
  | [] => true
  | (k, v) :: rest => k.isWritable && v.isWritable && entriesAreWritable rest

end

mutual

/-- How a value is shown, whatever the digits of its integers. -/
def spelling : Value → String
  | .null => "None"
  | .bool b => boolText b
  | .int n => Text.ofInt n
  | .float x _ => x.text
  | .decimal d _ => "Decimal('" ++ d.text ++ "')"
  | .str s => Text.quoted s
  | .timestamp t => t.display
  | .date d => d.display
  | .uuid u => "UUID('" ++ u.text ++ "')"
  | .bytes octets => Text.quotedOctets octets
  | .list items => "[" ++ ", ".intercalate (spellings items) ++ "]"
  | .tuple items => tupleText (spellings items)
  | .set frozen items => setText frozen (spellings items)
  | .dict entries => "\x7b" ++ ", ".intercalate (entrySpellings entries) ++ "\x7d"
  | .operator op => memberText op.qualified op.text
  | .connector c => memberText c.qualified c.text
  | .direction d => memberText d.qualified d.text
  | .condition field operand op joined =>
    "Condition(field=" ++ Text.quoted field ++ ", value=" ++ spelling operand ++ ", operator="
      ++ Text.quoted op ++ ", connector=" ++ memberText joined.qualified joined.text ++ ")"
  | .sortKey field order =>
    "SortBy(field=" ++ Text.quoted field ++ ", direction="
      ++ memberText order.qualified order.text ++ ")"

def spellings : List Value → List String
  | [] => []
  | v :: rest => spelling v :: spellings rest

def entrySpellings : List (Value × Value) → List String
  | [] => []
  | (k, v) :: rest => (spelling k ++ ": " ++ spelling v) :: entrySpellings rest

end

/-- The text of a value on its own, whatever the digits of its integers. -/
def plainSpelling : Value → String
  | .str s => s
  | .timestamp t => t.textWith " "
  | .date d => d.isoText
  | .decimal d _ => d.text
  | .uuid u => u.text
  | .operator op => op.qualified
  | .connector c => c.qualified
  | .direction d => d.qualified
  | .condition field operand op joined =>
    "field=" ++ Text.quoted field ++ " value=" ++ spelling operand ++ " operator="
      ++ Text.quoted op ++ " connector=" ++ memberText joined.qualified joined.text
  | .sortKey field order =>
    "field=" ++ Text.quoted field ++ " direction=" ++ memberText order.qualified order.text
  | v => spelling v

/-- A text of a value, unless an integer in the value is too long to be written. -/
def worded (v : Value) (text : String) : Except Fault String :=
  if v.isWritable then .ok text else .error (.flawed .tooLongToWrite)

/-- A value as messages show it. -/
def display (v : Value) : Except Fault String :=
  v.worded v.spelling

/-- The text of a value on its own. -/
def plainText (v : Value) : Except Fault String :=
  v.worded v.plainSpelling

/-- Values as messages show them, in order. -/
def displayAll (items : List Value) : Except Fault (List String) :=
  items.mapM display

variable {v : Value} {items : List Value}

theorem worded_eq_ok {text s : String} :
    v.worded text = .ok s ↔ v.isWritable = true ∧ text = s := by
  unfold worded
  split <;> simp [*]

theorem worded_eq_error {text : String} {e : Fault} :
    v.worded text = .error e ↔ v.isWritable = false ∧ .flawed .tooLongToWrite = e := by
  unfold worded
  split <;> simp [*]

theorem display_eq_ok {s : String} : v.display = .ok s ↔ v.isWritable = true ∧ v.spelling = s :=
  worded_eq_ok

theorem display_eq_error {e : Fault} :
    v.display = .error e ↔ v.isWritable = false ∧ .flawed .tooLongToWrite = e :=
  worded_eq_error

theorem plainText_eq_ok {s : String} :
    v.plainText = .ok s ↔ v.isWritable = true ∧ v.plainSpelling = s :=
  worded_eq_ok

theorem plainText_eq_error {e : Fault} :
    v.plainText = .error e ↔ v.isWritable = false ∧ .flawed .tooLongToWrite = e :=
  worded_eq_error

/-- A text is its own text. -/
@[simp] theorem plainText_str (s : String) : (str s).plainText = .ok s := rfl

theorem displayAll_of_areWritable (h : areWritable items = true) :
    displayAll items = .ok (spellings items) := by
  induction items with
  | nil => rfl
  | cons v rest ih =>
    simp only [areWritable, Bool.and_eq_true] at h
    have hrest : rest.mapM display = .ok (spellings rest) := ih h.2
    simp [displayAll, List.mapM_cons, display_eq_ok.mpr ⟨h.1, rfl⟩, hrest, spellings, bind,
      Except.bind, pure, Except.pure]

theorem displayAll_of_not_areWritable (h : areWritable items = false) :
    displayAll items = .error (.flawed .tooLongToWrite) := by
  induction items with
  | nil => cases h
  | cons v rest ih =>
    simp only [displayAll, List.mapM_cons, bind, Except.bind]
    cases hv : v.isWritable with
    | false => rw [display_eq_error.mpr ⟨hv, rfl⟩]
    | true =>
      have hrest : rest.mapM display = .error (.flawed .tooLongToWrite) :=
        ih (by simpa [areWritable, hv] using h)
      rw [display_eq_ok.mpr ⟨hv, rfl⟩, hrest]

end Value

end Docstore
