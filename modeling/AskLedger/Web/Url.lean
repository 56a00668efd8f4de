import AskLedger.Text.Find
import AskLedger.Text.Hex
import AskLedger.Text.Lowercase
import AskLedger.Web.Authority

/-!
# Addresses on the web

Addresses of the schemes `http` and `https`, and the part of them that a request names: the path and
the query. Characters that may not stand there are written as the bytes of their UTF-8 form, each as
a percent sign and two digits. A path is cut at slashes, and its dots are followed: one stands for
the same place, two for the place above. What follows a number sign is not part of a request.

* `Url.encoded_of_all`: a text of characters that may stand as they are is not changed.
* `Url.target_ne_nil`: what a request names is never empty.
-/

namespace AskLedger

/-- An address on the web. -/
structure Url where
  /-- Whether the connection is encrypted. -/
  isSecure : Bool
  /-- The host as it is written, with all that stands before the path. -/
  host : String
  /-- The steps of the path, encoded. -/
  path : List (List Char)
  /-- The query, encoded, if there is one. -/
  query? : Option (List Char)
  deriving DecidableEq, Repr

namespace Url

/-! ## Encoding -/

/-- A byte as a percent sign and two hexadecimal digits. -/
def percentByte (b : UInt8) : List Char :=
  ['%', Text.capitalHexDigit (b.toNat / 16), Text.capitalHexDigit (b.toNat % 16)]

/-- A text with all characters but those that pass written as bytes. -/
def encoded (passes : Char → Bool) (s : List Char) : List Char :=
  s.flatMap fun c => if passes c then [c] else (String.utf8EncodeChar c).flatMap percentByte

/-- Whether a character is visible and in ASCII. -/
def isVisible (c : Char) : Bool := 32 < c.toNat && c.toNat < 127

/-- Characters that stand as they are in a path. -/
def passesPath (c : Char) : Bool :=
  isVisible c && ['"', '#', '<', '>', '?', '^', '\x60', '\x7b', '\x7d'].all (· != c)

/-- Characters that stand as they are in a query. -/
def passesQuery (c : Char) : Bool :=
  isVisible c && ['"', '#', '<', '>', '\''].all (· != c)

/-- Characters that stand as they are in the value of a form. -/
def passesForm (c : Char) : Bool :=
  c.isAlphanum || ['*', '-', '.', '_', ' '].contains c

/-- The value of a form, with a plus for each blank. -/
def formValue (s : List Char) : List Char :=
  (encoded passesForm s).map fun c => if c = ' ' then '+' else c

/-! ## Paths -/

/-- Whether a character divides steps of a path. -/
def isSlash (c : Char) : Bool := c == '/' || c == '\\'

/-- Whether a step stands for the same place. -/
def isHere (step : List Char) : Bool :=
  ["." , "%2e"].contains (String.ofList (Text.asciiLower step))

/-- Whether a step stands for the place above. -/
def isAbove (step : List Char) : Bool :=
  ["..", ".%2e", "%2e.", "%2e%2e"].contains (String.ofList (Text.asciiLower step))

/-- The steps of a path with its dots followed; `taken` holds the steps so far, last first. The path
ends with an empty step if its last one is a dot or two. -/
def follow (taken : List (List Char)) : List (List Char) → List (List Char)
  | [] => taken.reverse
  | [step] =>
    if isAbove step then ([] :: taken.drop 1).reverse
    else if isHere step then ([] :: taken).reverse
    else (step :: taken).reverse
  | step :: rest =>
    if isAbove step then follow (taken.drop 1) rest
    else if isHere step then follow taken rest
    else follow (step :: taken) rest

/-- The steps of a path that is given as a text with or without a slash in front. -/
def stepsOf (path : List Char) : List (List Char) :=
  let path := path.map fun c => if isSlash c then '/' else c
  let path := match path with
    | '/' :: rest => rest
    | _ => path
  follow [] ((Text.splitAt '/' path).map (encoded passesPath))

/-! ## Addresses -/

/-- The text without the blanks and control characters around it and without tabs and line ends. -/
def cleaned (s : List Char) : List Char :=
  let isOuter (c : Char) : Bool := c.toNat ≤ 32
  let inner := ((s.dropWhile isOuter).reverse.dropWhile isOuter).reverse
  inner.filter fun c => c != '\t' && c != '\n' && c != '\r'

/-- Reads an address of one of the two schemes. -/
def read? (text : String) : Option Url :=
  let s := cleaned text.toList
  let scheme := String.ofList (Text.asciiLower (s.takeWhile (· != ':')))
  let rest := ((s.dropWhile (· != ':')).drop 1).dropWhile isSlash
  let endsHost (c : Char) : Bool := isSlash c || c == '?' || c == '#'
  let host := rest.takeWhile fun c => !endsHost c
  let rest := rest.dropWhile fun c => !endsHost c
  let query? := match rest.dropWhile fun c => c != '?' && c != '#' with
    | '?' :: query => some (encoded passesQuery (query.takeWhile (· != '#')))
    | _ => none
  if (scheme = "http" ∨ scheme = "https") ∧ Web.Authority.isValid host then
    some {
      isSecure := scheme == "https"
      host := String.ofList (Text.asciiLower host)
      path := stepsOf (rest.takeWhile fun c => c != '?' && c != '#')
      query? }
  else none

/-- Adds the value of a form to the query. -/
def withValue (u : Url) (name value : String) : Url :=
  let pair := formValue name.toList ++ '=' :: formValue value.toList
  { u with query? := some (match u.query? with
    | none => pair
    | some [] => pair
    | some query => query ++ '&' :: pair) }

/-- What a request names: the path and the query. -/
def target (u : Url) : List Char :=
  u.path.flatMap ('/' :: ·) ++ (if u.path.isEmpty then ['/'] else [])
    ++ (u.query?.map ('?' :: ·)).getD []

/-! ## Facts -/

/-- A text of characters that may stand as they are is not changed. -/
theorem encoded_of_all {passes : Char → Bool} {s : List Char} (h : ∀ c ∈ s, passes c = true) :
    encoded passes s = s := by
  induction s with
  | nil => rfl
  | cons c rest ih =>
    have hc : passes c = true := h c (by simp)
    have hrest : encoded passes rest = rest := ih fun d hd => h d (by simp [hd])
    simpa [encoded, hc] using hrest

/-- What a request names is never empty. -/
theorem target_ne_nil (u : Url) : u.target ≠ [] := by
  unfold target
  cases hp : u.path <;> simp

end Url

end AskLedger
