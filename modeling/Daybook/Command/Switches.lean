/-!
# Switches

A command line is a list of words. Those that begin with a dash are switches: long ones with a name,
short ones with a letter, of which several may share a word. Some switches take a value, which
stands behind an equals sign or in the next word. Behind a word of two dashes nothing is a switch.
-/

namespace Daybook.Command

/-- A switch: its name, its letter, what values it accepts if it takes one, and whether it may be
given more than once. -/
structure Switch where
  name : String
  letter : Option Char
  accepts : Option (String → Bool)
  repeats : Bool

namespace Switch

/-- A switch without a value. -/
def flag (name : String) : Switch :=
  ⟨name, none, none, false⟩

/-- A switch with a value. -/
def option (name : String) (accepts : String → Bool) : Switch :=
  ⟨name, none, some accepts, false⟩

end Switch

/-- Why a command line is not followed: it asks for help or for the version, or it is wrong. -/
inductive Detour where
  | help
  | version
  | misuse
deriving DecidableEq, Repr

/-- A switch that was given, with its value. -/
structure Given where
  name : String
  value : Option String
deriving DecidableEq, Repr

/-- What words are read by: the switches there are, and how many other words are taken. A board for
the front of a command line ends at the first word that is no switch, the name of a command, and
can tell the version. -/
structure Switchboard where
  switches : List Switch
  places : Nat
  isFront : Bool

/-- What was read so far: switches in reverse, and words that are none, in reverse. -/
structure Words where
  given : List Given
  plain : List String
deriving DecidableEq, Repr

namespace Words

/-- Nothing read yet. -/
def none : Words :=
  ⟨[], []⟩

/-- Takes in a switch with its value, if it accepts that and is not there already. -/
def add (w : Words) (s : Switch) (value : Option String) : Except Detour Words :=
  let accepted := match s.accepts, value with
    | some accepts, some value => accepts value
    | .none, .none => true
    | _, _ => false
  if accepted && (s.repeats || !w.given.any (·.name == s.name)) then
    .ok { w with given := ⟨s.name, value⟩ :: w.given }
  else .error .misuse

/-- Whether a switch was given. -/
def has (w : Words) (name : String) : Bool :=
  w.given.any (·.name == name)

/-- The value of a switch, if it was given. -/
def value? (w : Words) (name : String) : Option String :=
  (w.given.find? (·.name == name)).bind (·.value)

end Words

/-- Whether a word is a switch or ends all switches, and so is no value of a switch before it. -/
def looksLikeSwitch (word : String) : Bool :=
  word.startsWith "-" && word != "-"

namespace Switchboard

/-- What a long or a short switch asks for, if it is none of those on the board. -/
def detour? (b : Switchboard) (name : String) (letter : Option Char) : Option Detour :=
  if name == "help" || letter == some 'h' then some .help
  else if b.isFront && (name == "version" || letter == some 'V') then some .version
  else none

/-- A long switch, given its name and what stands behind its equals sign, with the words that
follow; gives back those that are left. -/
def long (b : Switchboard) (w : Words) (name : String) (attached : Option String)
    (rest : List String) : Except Detour (Words × List String) :=
  match b.switches.find? (·.name == name) with
  | none =>
    match b.detour? name none, attached with
    | some detour, none => .error detour
    | _, _ => .error .misuse
  | some s =>
    if s.accepts.isSome && attached.isNone then
      match rest with
      | next :: rest =>
        if looksLikeSwitch next then .error .misuse else (w.add s (some next)).map ((·, rest))
      | [] => .error .misuse
    else (w.add s attached).map ((·, rest))

/-- Short switches that share a word, with the words that follow; gives back those that are left. -/
def short (b : Switchboard) (rest : List String) : List Char → Words →
    Except Detour (Words × List String)
  | [], w => .ok (w, rest)
  | c :: cs, w =>
    match b.switches.find? (·.letter == some c) with
    | none => .error ((b.detour? "" (some c)).getD .misuse)
    | some s =>
      if s.accepts.isNone then
        match w.add s none with
        | .ok w => b.short rest cs w
        | .error detour => .error detour
      else if cs.isEmpty then
        match rest with
        | next :: rest =>
          if looksLikeSwitch next then .error .misuse else (w.add s (some next)).map ((·, rest))
        | [] => .error .misuse
      else
        let value := if cs.head? == some '=' then cs.drop 1 else cs
        (w.add s (some (String.ofList value))).map ((·, rest))

/-- Takes a switch from the front of a list of words; gives back the words that are left. -/
def switch (b : Switchboard) (w : Words) (word : String) (rest : List String) :
    Except Detour (Words × List String) :=
  match word.toList with
  | '-' :: '-' :: cs =>
    let name := cs.takeWhile (· != '=')
    let attached :=
      if name.length < cs.length then some (String.ofList (cs.drop (name.length + 1))) else none
    b.long w (String.ofList name) attached rest
  | _ :: cs => b.short rest cs w
  | [] => .error .misuse

/-- Takes in words that are no switches, as far as there are places for them. -/
def addPlain (b : Switchboard) : List String → Words → Except Detour Words
  | [], w => .ok w
  | word :: words, w =>
    if w.plain.length < b.places && !word.isEmpty then
      b.addPlain words { w with plain := word :: w.plain }
    else .error .misuse

/-- Reads words, at most `fuel` of them. A board for the front gives back the word that ends it and
those behind. -/
def read (b : Switchboard) : Nat → Words → List String → Except Detour (Words × List String)
  | 0, _, _ => .error .misuse
  | _, w, [] => .ok (w, [])
  | fuel + 1, w, word :: rest =>
    if word == "--" then (b.addPlain rest w).map ((·, []))
    else if looksLikeSwitch word then
      match b.switch w word rest with
      | .error detour => .error detour
      | .ok (w, rest) => b.read fuel w rest
    else if b.isFront then .ok (w, word :: rest)
    else
      match b.addPlain [word] w with
      | .error detour => .error detour
      | .ok w => b.read fuel w rest

end Switchboard

end Daybook.Command
