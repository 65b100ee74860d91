/-!
# The host of an address

The host is what stands after `://`, in the authority, behind any user information and before the
colon of any number. ASCII letters are lowered, so one host is always shown in one way.
-/

namespace Daybook.Link

/-- What follows the first `://`. -/
def afterScheme? : List Char → Option (List Char)
  | ':' :: '/' :: '/' :: rest => some rest
  | _ :: rest => afterScheme? rest
  | [] => none

/-- Whether a character ends the authority of an address. -/
def endsAuthority (c : Char) : Bool :=
  c == '/' || c == '?' || c == '#'

/-- The authority at the front of an address that has lost its scheme. -/
def authority (rest : List Char) : List Char :=
  rest.takeWhile (fun c => !endsAuthority c)

/-- An authority without its user information, which ends at the last `@`. -/
def dropUserInfo (cs : List Char) : List Char :=
  (cs.reverse.takeWhile (· != '@')).reverse

/-- Everything up to and with the first `]`, or all if there is none. -/
def takeBracketed : List Char → List Char
  | [] => []
  | ']' :: _ => [']']
  | c :: cs => c :: takeBracketed cs

/-- What stands before the number of an authority; a host in brackets may hold colons. -/
def dropNumber (cs : List Char) : List Char :=
  match cs with
  | '[' :: _ => takeBracketed cs
  | _ => cs.takeWhile (· != ':')

/-- The host of an address in characters, lowered. -/
def hostChars? (url : List Char) : Option (List Char) :=
  match afterScheme? url with
  | none => none
  | some rest =>
    let host := dropNumber (dropUserInfo (authority rest))
    if host.isEmpty then none else some (host.map Char.toLower)

/-- The host of an address, lowered; none if it is missing or empty. -/
def host? (url : String) : Option String :=
  (hostChars? url.toList).map String.ofList

end Daybook.Link
