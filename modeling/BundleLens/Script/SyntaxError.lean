namespace BundleLens.Script

inductive SyntaxError where
  | sourceTooLong
  | unexpectedToken (offset : Nat)
  | unexpectedCharacter (offset : Nat)
  | malformedNumber (offset : Nat)
  | malformedName (offset : Nat)
  | unclosedText (offset : Nat)
  | invalidTarget (offset : Nat)
  | nestingTooDeep
  deriving DecidableEq

def SyntaxError.message : SyntaxError → String
  | .sourceTooLong => "Source length exceeds 4 GiB limit"
  | .unexpectedToken offset => s!"Unexpected token at offset {offset}"
  | .unexpectedCharacter offset => s!"Unexpected character at offset {offset}"
  | .malformedNumber offset => s!"Malformed number at offset {offset}"
  | .malformedName offset => s!"Malformed name at offset {offset}"
  | .unclosedText offset => s!"Unclosed literal at offset {offset}"
  | .invalidTarget offset => s!"Cannot assign to the expression at offset {offset}"
  | .nestingTooDeep => "Nesting is too deep"

end BundleLens.Script
