/-!
# What can be wrong with a pattern

The causes for which a pattern is refused, and the words for each.
-/

namespace RemoteImports
namespace Pattern

/-- Why a pattern is refused. -/
inductive Problem where
  | tooMuchNesting
  | tooBig
  | duplicateName
  | unclosedGroup
  | unopenedGroup
  | endAfterQuestion
  | lookAround
  | emptyFlags
  | endBeforeName
  | invalidName
  | endInName
  | emptyName
  | unknownFlag
  | repeatedNegation
  | duplicateFlag
  | endInFlags
  | danglingNegation
  | noDecimalDigits
  | invalidDecimal
  | noHexDigit
  | endInBracedHex
  | emptyBracedHex
  | invalidBracedHex
  | endInFixedHex
  | noFixedHexDigit
  | invalidFixedHex
  | endBeforeHex
  | endInEscape
  | backreference
  | unicodeClass
  | unknownEscape
  | nothingToRepeat
  | nothingToCount
  | endInCount
  | endAfterLeast
  | endAfterComma
  | endAfterGreatest
  | unclosedCount
  | invalidCount
  | endAfterItem
  | invalidRangeItem
  | invalidItem
  | endAfterDash
  | endAfterCaret
  | endAfterBracket
  | invalidRange
  | unclosedClass
  | nestedClass
  | intersection
  | difference
  | symmetricDifference
  | unclosedBoundary
  | unknownBoundary
  | endInBoundary
deriving DecidableEq

def Problem.text : Problem -> String
  | tooMuchNesting => "pattern has too much nesting"
  | tooBig => "compiled regex exceeded size limit"
  | duplicateName => "duplicate capture group name"
  | unclosedGroup => "found open group without closing ')'"
  | unopenedGroup => "found closing ')' without matching '('"
  | endAfterQuestion => "expected closing ')', but got end of pattern"
  | lookAround => "look-around is not supported"
  | emptyFlags => "empty flag directive '(?)' is not allowed"
  | endBeforeName => "expected capture group name, but got end of pattern"
  | invalidName => "invalid group name"
  | endInName => "expected end of capture group name, but got end of pattern"
  | emptyName => "empty capture group names are not allowed"
  | unknownFlag => "unrecognized inline flag"
  | repeatedNegation => "inline flag negation cannot be repeated"
  | duplicateFlag => "duplicate inline flag is not allowed"
  | endInFlags => "expected ':' or ')' to end inline flags, but got end of pattern"
  | danglingNegation => "inline flags cannot end with negation directive"
  | noDecimalDigits => "expected decimal number, but found no digits"
  | invalidDecimal => "got invalid decimal number"
  | noHexDigit => "expected hexadecimal number in braces, but got non-hex digit"
  | endInBracedHex => "expected hexadecimal number, but saw end of pattern before closing brace"
  | emptyBracedHex => "expected hexadecimal number in braces, but got no digits"
  | invalidBracedHex => "got invalid hexadecimal number in braces"
  | endInFixedHex => "expected fixed length hexadecimal number, but saw end of pattern first"
  | noFixedHexDigit => "expected fixed length hexadecimal number, but got non-hex digit"
  | invalidFixedHex => "got invalid fixed length hexadecimal number"
  | endBeforeHex => "expected hexadecimal number, but saw end of pattern first"
  | endInEscape => "saw start of escape sequence, but saw end of pattern before it finished"
  | backreference => "backreferences are not supported"
  | unicodeClass => "Unicode character classes are not supported"
  | unknownEscape => "unrecognized escape sequence"
  | nothingToRepeat => "uncounted repetition operator must be applied to a sub-expression"
  | nothingToCount => "counted repetition operator must be applied to a sub-expression"
  | endInCount => "found unclosed counted repetition operator"
  | endAfterLeast => "found incomplete and unclosed counted repetition operator"
  | endAfterComma => "found counted repetition operator with a comma that is unclosed"
  | endAfterGreatest => "found counted repetition with min and max that is unclosed"
  | unclosedCount => "expected closing brace for counted repetition, but got something else"
  | invalidCount => "found counted repetition with a min bigger than its max"
  | endAfterItem => "non-empty character class has no closing bracket"
  | invalidRangeItem => "character class ranges must start and end with a single character"
  | invalidItem => "invalid escape sequence in character class"
  | endAfterDash => "non-empty character class has no closing bracket after dash"
  | endAfterCaret => "negated character class has no closing bracket"
  | endAfterBracket => "character class begins with literal ']' but has no closing bracket"
  | invalidRange => "invalid range in character class"
  | unclosedClass => "found unclosed character class"
  | nestedClass => "nested character classes are not supported"
  | intersection => "character class intersection is not supported"
  | difference => "character class difference is not supported"
  | symmetricDifference => "character class symmetric difference is not supported"
  | unclosedBoundary =>
    "special word boundary assertion is unclosed or has an invalid character"
  | unknownBoundary => "special word boundary assertion is unrecognized"
  | endInBoundary => "found start of special word boundary or repetition without an end"

end Pattern
end RemoteImports
