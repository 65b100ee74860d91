import Daybook.Json.Scalar
import Daybook.NameMap

/-!
# Reading JSON

Readers for any value and for values of a wanted kind. Each container takes one from an allowance
for nesting. A wanted kind is checked at the first byte of a value, before the rest is looked at.
Values under unknown names are moved over without any limit on their depth.
-/

namespace Daybook.Json

open Reader Daybook.Number

/-- The number of containers that may stand inside each other. -/
def nestingLimit : Nat :=
  127

/-! ## Containers -/

/-- The cursor behind the closing bracket of a list, if that is what comes next; otherwise behind
the blanks, and behind a comma and its blanks. -/
def Cursor.pastListEnd (c : Cursor) : Cursor :=
  let s := c.skipSpace
  match s.rest with
  | ']' :: _ => s.next
  | ',' :: _ => s.next.skipSpace
  | _ => s

/-- The cursor behind the closing brace of an object, if that is what comes next; otherwise behind
the blanks. -/
def Cursor.pastObjectEnd (c : Cursor) : Cursor :=
  let s := c.skipSpace
  match s.rest with
  | '}' :: _ => s.next
  | _ => s

/-- The closing bracket of a list. -/
def closeList : Reader Unit := do
  match ← peekSolid with
  | none => failHere .endInList
  | some ']' => skip
  | some ',' => do
    skip
    match ← peekSolid with
    | some ']' => failNext .trailingComma
    | _ => failNext .trailingCharacters
  | some _ => failNext .trailingCharacters

/-- The closing brace of an object. -/
def closeObject : Reader Unit := do
  match ← peekSolid with
  | none => failHere .endInObject
  | some '}' => skip
  | some ',' => failNext .trailingComma
  | some _ => failNext .trailingCharacters

/-- A refusal inside becomes a fault behind the end of the container that raised it. -/
def placing (past : Cursor → Cursor) (r : Reader α) : Reader α :=
  fun c => match r c with
    | .refused problem seen => .failed ⟨problem, (past seen).place⟩
    | outcome => outcome

/-- A list from its bracket on: `inner` reads what is between the brackets. -/
def inList (allowed : Nat) (inner : Nat → Reader α) : Reader α :=
  match allowed with
  | 0 => failNext .tooDeep
  | n + 1 => do
    skip
    let value ← placing Cursor.pastListEnd (inner n)
    closeList
    done value

/-- An object from its brace on: `inner` reads what is between the braces. -/
def inObject (allowed : Nat) (inner : Nat → Reader α) : Reader α :=
  match allowed with
  | 0 => failNext .tooDeep
  | n + 1 => do
    skip
    let value ← placing Cursor.pastObjectEnd (inner n)
    closeObject
    done value

/-- Whether a list has another item; if so, the cursor is brought to it. -/
def hasItem (first : Bool) : Reader Bool := do
  match ← peekSolid with
  | none => failHere .endInList
  | some ']' => done false
  | some c =>
    if first then done true
    else if c == ',' then do
      skip
      match ← peekSolid with
      | none => failHere .endInValue
      | some ']' => failNext .trailingComma
      | some _ => done true
    else failNext .expectedListEnd

/-- Whether an object has another member; if so, the cursor is brought to its name. -/
def hasMember (first : Bool) : Reader Bool := do
  match ← peekSolid with
  | none => failHere .endInObject
  | some '}' => done false
  | some c =>
    if first then
      if c == '"' then done true else failNext .keyNotString
    else if c == ',' then do
      skip
      match ← peekSolid with
      | none => failHere .endInValue
      | some '"' => done true
      | some '}' => failNext .trailingComma
      | some _ => failNext .keyNotString
    else failNext .expectedObjectEnd

/-- The name of a member. -/
def memberName : Reader String := do
  skip
  readString

/-- The colon behind the name of a member. -/
def colon : Reader Unit := do
  match ← peekSolid with
  | none => failHere .endInObject
  | some ':' => skip
  | some _ => failNext .expectedColon

/-- The items of a list up to its end, added in reverse to those in `passed`. -/
def itemsFrom (item : Reader α) : Nat → List α → Reader (List α)
  | 0, _, c => failHere .endInList c
  | fuel + 1, passed, c =>
    match hasItem passed.isEmpty c with
    | .refused problem seen => .refused problem seen
    | .failed fault => .failed fault
    | .done false behind => .done passed.reverse behind
    | .done true behind =>
      match item behind with
      | .refused problem seen => .refused problem seen
      | .failed fault => .failed fault
      | .done value behind => itemsFrom item fuel (value :: passed) behind

/-- The items of a list. -/
def items (item : Reader α) : Reader (List α) :=
  fun c => itemsFrom item c.bound [] c

/-- The members of an object up to its end, each taken into what was made of those before. -/
def membersFrom (member : String → σ → Reader σ) : Nat → Bool → σ → Reader σ
  | 0, _, _, c => failHere .endInObject c
  | fuel + 1, first, state, c =>
    match hasMember first c with
    | .refused problem seen => .refused problem seen
    | .failed fault => .failed fault
    | .done false behind => .done state behind
    | .done true behind =>
      match memberName behind with
      | .refused problem seen => .refused problem seen
      | .failed fault => .failed fault
      | .done name behind =>
        match member name state behind with
        | .refused problem seen => .refused problem seen
        | .failed fault => .failed fault
        | .done state behind => membersFrom member fuel false state behind

/-- The members of an object, each taken into what was made of those before. -/
def members (member : String → σ → Reader σ) (state : σ) : Reader σ :=
  fun c => membersFrom member c.bound true state c

/-! ## Any value -/

/-- Any value, with an allowance for nesting. A later member of an object replaces an earlier one
of the same name. -/
def readValue (allowed : Nat) : Reader Value :=
  fun c =>
    let here := c.skipSpace
    match here.rest with
    | [] => failHere .endInValue here
    | x :: _ =>
      match x with
      | 'n' => (do skip; readWord "ull".toList; done .null : Reader Value) here
      | 't' => (do skip; readWord "rue".toList; done (.bool true) : Reader Value) here
      | 'f' => (do skip; readWord "alse".toList; done (.bool false) : Reader Value) here
      | '-' => (do skip; done (.number (← readNumber true)) : Reader Value) here
      | '"' => (do skip; done (.string (← readString)) : Reader Value) here
      | '[' =>
        match allowed with
        | 0 => failNext .tooDeep here
        | n + 1 => (do
            skip
            let values ← items (readValue n)
            closeList
            done (.array values) : Reader Value) here
      | '{' =>
        match allowed with
        | 0 => failNext .tooDeep here
        | n + 1 => (do
            skip
            let entries ← members
              (fun name m => do colon; done (m.insert name (← readValue n))) NameMap.empty
            closeObject
            done (.object entries.entries) : Reader Value) here
      | x =>
        if x.isDigit then (do done (.number (← readNumber false)) : Reader Value) here
        else failNext .expectedValue here

/-! ## Values of a wanted kind -/

/-- The fault of a value that is not of the wanted kind. A scalar is read first, and its own faults
come before; a container is left at its bracket. -/
def wrongType (expected : String) : Reader α := do
  match ← peekSolid with
  | none => failHere .endInValue
  | some 'n' => skip; readWord "ull".toList; failHere (.wrongType .null expected)
  | some 't' => skip; readWord "rue".toList; failHere (.wrongType (.bool true) expected)
  | some 'f' => skip; readWord "alse".toList; failHere (.wrongType (.bool false) expected)
  | some '-' => skip; failHere (.wrongType (.number (← readNumber true)) expected)
  | some '"' => skip; failHere (.wrongType (.string (← readString)) expected)
  | some '[' => failHere (.wrongType .sequence expected)
  | some '{' => failHere (.wrongType .map expected)
  | some c =>
    if c.isDigit then failHere (.wrongType (.number (← readNumber false)) expected)
    else failNext .expectedValue

/-- A text that `convert` accepts; a reason for a refusal stands behind the text. -/
def readTextAs (expected : String) (convert : String → Except String α) : Reader α := do
  match ← peekSolid with
  | none => failHere .endInValue
  | some '"' => do
    skip
    let s ← readString
    match convert s with
    | .ok value => done value
    | .error reason => failHere (.invalidContent reason)
  | some _ => wrongType expected

/-- A text. -/
def readText : Reader String :=
  readTextAs "a string" .ok

/-- An integer of 32 bits without a sign. -/
def readCount : Reader Nat := do
  let checked (n : Number) : Reader Nat :=
    match n with
    | .integer value =>
      if 0 ≤ value ∧ value < twoPow 32 then done value.toNat
      else failHere (.wrongValue (.number n) "u32")
    | .float _ => failHere (.wrongType (.number n) "u32")
  match ← peekSolid with
  | none => failHere .endInValue
  | some '-' => do skip; checked (← readNumber true)
  | some c => if c.isDigit then do checked (← readNumber false) else wrongType "u32"

/-- `null` as nothing, anything else by `r`. -/
def readOption (r : Reader α) : Reader (Option α) := do
  match ← peekSolid with
  | some 'n' => do skip; readWord "ull".toList; done none
  | _ => do done (some (← r))

/-- A list of items. -/
def readList (item : Nat → Reader α) (allowed : Nat) : Reader (List α) := do
  match ← peekSolid with
  | none => failHere .endInValue
  | some '[' => inList allowed (fun n => items (item n))
  | some _ => wrongType "a sequence"

/-- An object whose members are all of one kind; later ones win. -/
def readMap (value : Nat → Reader α) (allowed : Nat) : Reader (NameMap α) := do
  match ← peekSolid with
  | none => failHere .endInValue
  | some '{' =>
    inObject allowed (fun n =>
      members (fun name m => do colon; done (m.insert name (← value n))) NameMap.empty)
  | some _ => wrongType "a map"

/-- A list of exactly two items. -/
def readPair (first : Reader α) (second : Reader β) (allowed : Nat) : Reader (α × β) := do
  let expected := "a tuple of size 2"
  match ← peekSolid with
  | none => failHere .endInValue
  | some '[' =>
    inList allowed (fun _ => do
      if ← hasItem true then
        let a ← first
        if ← hasItem false then
          done (a, ← second)
        else refuse (.wrongLength 1 expected)
      else refuse (.wrongLength 0 expected))
  | some _ => wrongType expected

/-! ## Values that do not matter -/

/-- What `skipValue` wants next. -/
inductive SkipStep where
  | value
  | opened
  | name
  | behind

/-- Moves over a value that is no container, from its first character on. -/
def skipScalar (x : Char) : Reader Unit :=
  match x with
  | 'n' => do skip; readWord "ull".toList
  | 't' => do skip; readWord "rue".toList
  | 'f' => do skip; readWord "alse".toList
  | '-' => do skip; skipNumber
  | '"' => do skip; skipString
  | x => if x.isDigit then skipNumber else failNext .expectedValue

/-- Moves over the name of a member and its colon. -/
def skipName : Reader Unit := do
  match ← peek with
  | none => failHere .endInObject
  | some '"' => do skip; skipString; colon
  | some _ => failNext .keyNotString

/-- Moves over a value whose content does not matter; `lists` tells of every container around
whether it is a list. -/
def skipFrom : Nat → SkipStep → List Bool → Reader Unit
  | 0, _, _, c => failHere .endInValue c
  | fuel + 1, step, lists, c =>
    let here := c.skipSpace
    match step, lists with
    | .value, _ =>
      match here.rest with
      | [] => failHere .endInValue here
      | '[' :: _ => skipFrom fuel .opened (true :: lists) here.next
      | '{' :: _ => skipFrom fuel .opened (false :: lists) here.next
      | x :: _ =>
        match skipScalar x here with
        | .done _ behind => skipFrom fuel .behind lists behind
        | .refused problem seen => .refused problem seen
        | .failed fault => .failed fault
    | .opened, [] => .done () c
    | .opened, isList :: outer =>
      match here.rest with
      | [] => failHere (if isList then .endInList else .endInObject) here
      | x :: _ =>
        if x == (if isList then ']' else '}') then skipFrom fuel .behind outer here.next
        else skipFrom fuel (if isList then .value else .name) lists here
    | .name, _ =>
      match skipName here with
      | .done _ behind => skipFrom fuel .value lists behind
      | .refused problem seen => .refused problem seen
      | .failed fault => .failed fault
    | .behind, [] => .done () c
    | .behind, isList :: outer =>
      match here.rest with
      | [] => failHere (if isList then .endInList else .endInObject) here
      | x :: _ =>
        if x == ',' then skipFrom fuel (if isList then .value else .name) lists here.next
        else if x == (if isList then ']' else '}') then skipFrom fuel .behind outer here.next
        else failNext (if isList then .expectedListEnd else .expectedObjectEnd) here

/-- Moves over a value whose content does not matter. A character takes at most three steps. -/
def skipValue : Reader Unit :=
  fun c => skipFrom (4 * c.bound) .value [] c

/-! ## Records -/

/-- A field of a record: its name, how its value is read into a draft, and whether a list of values
may end before it. -/
structure Field (σ : Type) where
  name : String
  read : Nat → σ → Reader σ
  optional : Bool

/-- How a record is read: what it is called, the draft to begin with, and its fields in order. -/
structure Record (σ : Type) where
  title : String
  blank : σ
  fields : List (Field σ)

namespace Record

/-- Reads one member of a record that is written as an object. -/
def member (r : Record σ) (allowed : Nat) (name : String) (state : List String × σ) :
    Reader (List String × σ) :=
  match r.fields.find? (·.name == name) with
  | none => do colon; skipValue; done state
  | some field =>
    if state.1.contains name then refuse (.duplicateField name)
    else do
      colon
      let draft ← field.read allowed state.2
      done (name :: state.1, draft)

/-- Reads the fields of a record that is written as a list, from field number `index` on. -/
def fieldsInOrder (r : Record σ) (allowed : Nat) (index : Nat) (draft : σ) :
    List (Field σ) → Reader σ
  | [] => done draft
  | field :: rest => do
    if ← hasItem (index == 0) then
      fieldsInOrder r allowed (index + 1) (← field.read allowed draft) rest
    else
      match (field :: rest).find? (fun f => !f.optional) with
      | none => done draft
      | some missing =>
        refuse (.wrongLength (index + (field :: rest).findIdx (·.name == missing.name))
          (r.title ++ " with " ++ Number.natText r.fields.length ++ " elements"))

/-- Reads a record as an object or as a list of its fields; `finish` checks the draft. -/
def read (r : Record σ) (finish : σ → Except Problem α) (allowed : Nat) : Reader α := do
  let finished (draft : σ) : Reader α :=
    match finish draft with
    | .ok value => done value
    | .error problem => refuse problem
  match ← peekSolid with
  | none => failHere .endInValue
  | some '[' => inList allowed (fun n => do finished (← r.fieldsInOrder n 0 r.blank r.fields))
  | some '{' => inObject allowed (fun n => do
      let state ← members (r.member n) ([], r.blank)
      finished state.2)
  | some _ => wrongType r.title

end Record

/-! ## Whole texts -/

/-- Reads a whole text; nothing but blanks may follow. -/
def readAll (r : Reader α) (text : List Char) : Except Fault α :=
  match r (Cursor.start text) with
  | .refused problem seen => .error ⟨problem, seen.place⟩
  | .failed fault => .error fault
  | .done value behind =>
    let here := behind.skipSpace
    if here.rest.isEmpty then .ok value else .error ⟨.trailingCharacters, here.nextPlace⟩

/-- The value that a text holds. -/
def parse (text : String) : Except Fault Value :=
  readAll (readValue nestingLimit) text.toList

end Daybook.Json
