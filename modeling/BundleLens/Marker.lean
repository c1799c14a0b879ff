import BundleLens.BundleFormat
import BundleLens.Event
import BundleLens.Text.Word

/-! Marks in a text that betray a bundle before it is parsed. -/
namespace BundleLens.Marker

def after? : List Char → List Char → Option (List Char)
  | [], text => some text
  | _ :: _, [] => none
  | c :: literal, d :: text => if c == d then after? literal text else none

def anywhere (p : List Char → Bool) : List Char → Bool
  | [] => p []
  | c :: text => p (c :: text) || anywhere p text

def occurs (literal : String) (text : List Char) : Bool :=
  let literal := literal.toList
  anywhere (fun rest => (after? literal rest).isSome) text

def isNamePart (c : Char) : Bool := Text.isWord c || c == '$'

def skipSpace (text : List Char) : List Char := text.dropWhile Text.isWhiteSpace

/-- Whether the text starts with the classic runtime's last step: requiring the assigned id. -/
def startsRequire (text : List Char) : Bool :=
  let rest := do
    let rest ← after? "__webpack_require__(".toList text
    after? "__webpack_require__.s".toList (skipSpace rest)
  match rest.map skipSpace with
  | some ('=' :: _) => true
  | _ => false

def startsShortArguments (text : List Char) : Bool :=
  match text with
  | '(' :: r =>
    let name := r.takeWhile isNamePart
    match after? ".s".toList (r.dropWhile isNamePart) |>.map skipSpace with
    | some ('=' :: r) =>
      let number := skipSpace r
      let digits := number.takeWhile Text.isDecimalDigit
      !name.isEmpty && !digits.isEmpty &&
        (number.dropWhile Text.isDecimalDigit).head? == some ')'
    | _ => false
  | _ => false

/-- Whether a name with those arguments after it occurs in the text. -/
def callsShortRequire : List Char → Bool
  | [] => false
  | c :: r => (isNamePart c && startsShortArguments r) || callsShortRequire r

def isClassic (text : List Char) : Bool := anywhere startsRequire text || callsShortRequire text

def isChunk (text : List Char) : Bool := occurs "webpackJsonp" text || occurs "webpackChunk" text

/-- The format that the marks in a text suggest. A classic runtime may name a chunk loader, so its
own marks count first. -/
def format? (text : String) : Option BundleFormat :=
  let cs := text.toList
  if isClassic cs then some .classic else if isChunk cs then some .chunk else none

def sniff (text : String) : Traced (Option BundleFormat) := do
  match format? text with
  | some format =>
    Traced.record (.sniffed format)
    return some format
  | none => return none

def isBundle (text : String) : Traced Bool := do
  return (← sniff text).isSome || occurs "__webpack_require__" text.toList

end BundleLens.Marker
