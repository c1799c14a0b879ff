namespace BundleLens.Console

inductive Style where
  | heading | name | error | alarm | good | mark | given | faint
  deriving DecidableEq

def Style.codes : Style → String
  | .heading => "96"
  | .name => "1;97"
  | .error => "31"
  | .alarm => "1;31"
  | .good => "32"
  | .mark => "1;32"
  | .given => "33"
  | .faint => "2"

def reset : List Char := ['\x1b', '[', '0', 'm']

def Style.on (style : Style) : List Char := '\x1b' :: '[' :: (style.codes.toList ++ ['m'])

/-- A text in which the style is switched on again after every sequence that switches it off. -/
def restore (on : List Char) : List Char → List Char
  | '\x1b' :: '[' :: '0' :: 'm' :: r => reset ++ on ++ restore on r
  | c :: r => c :: restore on r
  | [] => []

def paint (colour : Bool) (style : Style) (text : String) : String :=
  if colour then String.ofList (style.on ++ restore style.on text.toList ++ reset) else text

/-- Whether to use colours, by the environment's `CLICOLOR_FORCE`, `NO_COLOR` and `CLICOLOR` and by
whether a terminal shows them. A zero counts as a no. -/
def wantsColour (force never setting : Option String) (terminal : Bool) : Bool :=
  if force.any (· != "0") then true
  else if never.isSome then false
  else setting.all (· != "0") && terminal

end BundleLens.Console
