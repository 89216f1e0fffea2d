import SerialCheck.Text.Search
import SerialCheck.Value.Identity

/-!
# Misuses of values

Settings and the catalog may hold values of any kind. A value that is put to a use for which
its kind is not made is a misuse; its `message` names the kind.
-/
namespace SerialCheck

/-- The name of the kind of a value. -/
def Value.kindName : Value → String
  | .null => "NoneType"
  | .boolean _ => "bool"
  | .integer _ => "int"
  | .real _ => "float"
  | .decimal _ => "decimal.Decimal"
  | .text _ => "str"
  | .bytes _ => "bytes"
  | .buffer _ => "memoryview"
  | .row _ => "tuple"
  | .array _ => "list"
  | .mapping _ => "dict"

/-- A use of a value for which it is not made. Kinds are given by their names. -/
inductive Misuse where
  /-- The two kinds have no order. -/
  | order (symbol left right : String)
  /-- The two kinds have no sum. -/
  | sum (left right : String)
  /-- A sum of the first kind cannot be increased by the second kind. -/
  | increase (left right : String)
  /-- Nothing of the second kind can be put behind a text or a list. -/
  | concatenation (sequence other : String)
  /-- The kind has no members to be taken apart. -/
  | unpacking (kind : String)
  /-- There are too few or too many members. -/
  | members (expected found : Nat)
  /-- The kind has no members to go through. -/
  | iteration (kind : String)
  /-- The kind has no such operation. -/
  | operation (kind name : String)
  /-- The kind cannot be a name. -/
  | key (kind : String)
  /-- The member at the place is no text, so the members cannot be joined. -/
  | join (place : Nat) (kind : String)
  /-- The kind cannot count anything. -/
  | count (kind : String)
  /-- The value is no end of a list. -/
  | slice
  /-- The kind has no whole part. -/
  | wholePart (kind : String)
  /-- The text or byte string, given by its literal, is no whole number. -/
  | numeral (literal : String)
  /-- The whole number has too many digits to be read. -/
  | numeralLength (digits : Nat)
  /-- What is not a number has no whole part. -/
  | wholePartOfNan
  /-- What is infinite has no whole part. -/
  | wholePartOfInfinity
  /-- A decimal number that is not a number has no whole part. -/
  | wholePartOfDecimalNan
  /-- An infinite decimal number has no whole part. -/
  | wholePartOfDecimalInfinity
  /-- The bound is no whole number. -/
  | bound (name : String)
  /-- The whole number is beyond all binary numbers. -/
  | tooLarge
  /-- The kind cannot be a seed. -/
  | seed
  /-- Decimal numbers that have no such relation or sum, or none that is in range. -/
  | undefined
  /-- The decimal result is too large. -/
  | overflow
  /-- A decimal number that is a signal cannot be a name. -/
  | signal
  /-- The kind cannot be looked for in a text. -/
  | pattern (kind : String)
  /-- The kind cannot be looked for at the front of a text. -/
  | start (kind : String)
  /-- Nothing can be looked for in the kind. -/
  | search (kind : String)
  /-- The kind has no members at places. -/
  | places (kind : String)
  /-- The whole number has too many digits to be written. -/
  | unwritable
  /-- There is no kind of scalar of the name. -/
  | tag (name : String)
  /-- There is no kind of error that the value names. -/
  | errorKind (name : Value)
  /-- The kind is none that a decimal number can be made of. -/
  | decimalSource (kind : String)
  /-- A decimal number is made of a sign, digits and an exponent. -/
  | decimalParts
  /-- The sign of a decimal number is zero or one. -/
  | decimalSign
  /-- The digits of a decimal number are a list of digits. -/
  | decimalDigits
  /-- The exponent of a decimal number is a whole number. -/
  | decimalExponent
  /-- Only three letters stand for an exponent of a decimal number. -/
  | decimalLetter
  /-- The kind is none that a binary number can be made of. -/
  | realSource (kind : String)
  /-- The kind is none that a byte string can be made of. -/
  | byteSource (kind : String)
  /-- The text is no decimal number. -/
  | malformedDecimal
  /-- The text is no binary number. -/
  | malformedReal (text : String)
  /-- The text has no hexadecimal digit at the place. -/
  | malformedBytes (place : Nat)
  deriving Repr, DecidableEq

/-- A value is read for a whole number and denotes none. -/
def Misuse.isUnreadable : Misuse → Bool
  | .numeral _ | .numeralLength _ | .wholePartOfNan | .wholePartOfDecimalNan => true
  | _ => false

/-- How much of a literal a description shows. -/
def Misuse.shownLiteral : Nat := 200

/-- The description of a misuse. -/
def Misuse.message : Misuse → String
  | .order symbol left right =>
    Text.quoted symbol ++ " not supported between instances of " ++ Text.quoted left ++ " and " ++
      Text.quoted right
  | .sum left right =>
    "unsupported operand type(s) for +: " ++ Text.quoted left ++ " and " ++ Text.quoted right
  | .increase left right =>
    "unsupported operand type(s) for +=: " ++ Text.quoted left ++ " and " ++ Text.quoted right
  | .concatenation "bytes" other => "can't concat " ++ other ++ " to bytes"
  | .concatenation sequence other =>
    "can only concatenate " ++ sequence ++ " (not \"" ++ other ++ "\") to " ++ sequence
  | .unpacking kind => "cannot unpack non-iterable " ++ kind ++ " object"
  | .members expected found =>
    if found < expected then s!"not enough values to unpack (expected {expected}, got {found})"
    else s!"too many values to unpack (expected {expected})"
  | .iteration kind => Text.quoted kind ++ " object is not iterable"
  | .operation kind name => Text.quoted kind ++ " object has no attribute " ++ Text.quoted name
  | .key kind => "unhashable type: " ++ Text.quoted kind
  | .join place kind => s!"sequence item {place}: expected str instance, {kind} found"
  | .count kind => Text.quoted kind ++ " object cannot be interpreted as an integer"
  | .slice => "slice indices must be integers or None or have an __index__ method"
  | .wholePart kind =>
    "int() argument must be a string, a bytes-like object or a real number, not " ++
      Text.quoted kind
  | .numeral literal =>
    "invalid literal for int() with base 10: " ++ Text.takeChars shownLiteral literal
  | .numeralLength digits =>
    s!"Exceeds the limit ({Text.maxIntegerDigits} digits) for integer string conversion: value " ++
      s!"has {digits} digits; use sys.set_int_max_str_digits() to increase the limit"
  | .wholePartOfNan => "cannot convert float NaN to integer"
  | .wholePartOfInfinity => "cannot convert float infinity to integer"
  | .wholePartOfDecimalNan => "cannot convert NaN to integer"
  | .wholePartOfDecimalInfinity => "cannot convert Infinity to integer"
  | .bound name => "non-integer " ++ name ++ " for randrange()"
  | .tooLarge => "int too large to convert to float"
  | .seed =>
    "The only supported seed types are: None,\nint, float, str, bytes, and bytearray."
  | .undefined => "[<class 'decimal.InvalidOperation'>]"
  | .overflow => "[<class 'decimal.Overflow'>]"
  | .signal => "Cannot hash a signaling NaN value"
  | .pattern kind => "'in <string>' requires string as left operand, not " ++ kind
  | .start kind => "startswith first arg must be str or a tuple of str, not " ++ kind
  | .search kind => "argument of type " ++ Text.quoted kind ++ " is not iterable"
  | .places kind => Text.quoted kind ++ " object is not subscriptable"
  | .unwritable =>
    s!"Exceeds the limit ({Text.maxIntegerDigits} digits) for integer string conversion; use " ++
      "sys.set_int_max_str_digits() to increase the limit"
  | .tag name => Text.quoted name
  | .errorKind name => "there is no kind of error named " ++ name.literal
  | .decimalSource kind => "conversion from " ++ kind ++ " to Decimal is not supported"
  | .decimalParts => "argument must be a sequence of length 3"
  | .decimalSign => "sign must be an integer with the value 0 or 1"
  | .decimalDigits => "coefficient must be a tuple of digits"
  | .decimalExponent => "exponent must be an integer"
  | .decimalLetter => "string argument in the third position must be 'F', 'n' or 'N'"
  | .realSource kind =>
    "float() argument must be a string or a real number, not " ++ Text.quoted kind
  | .byteSource kind => "fromhex() argument must be str, not " ++ kind
  | .malformedDecimal => "[<class 'decimal.ConversionSyntax'>]"
  | .malformedReal text => "could not convert string to float: " ++ Text.quoted text
  | .malformedBytes place =>
    s!"non-hexadecimal number found in fromhex() arg at position {place}"

end SerialCheck
