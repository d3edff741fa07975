import TableQuery.Text.DefaultIgnorable
import TableQuery.Text.ExtendingMark
import TableQuery.Text.Unprintable

/-!
# Inspected text

The form in which text is shown to a developer: between double quotes, with everything escaped that
would not be visible on its own. A zero, a tab, a return, a line feed, a backslash and a double
quote have short escapes; any other character that is unprintable, that displays may ignore, or that
would merge with the character before it, is shown as its code point in lowercase hexadecimal
between braces.
-/

namespace TableQuery.Text

/-- A character that cannot be seen on its own: it has no visible form, displays may ignore it, or it
merges with the character before it. -/
def isHidden (c : Char) : Bool := isUnprintable c || isDefaultIgnorable c || isExtendingMark c

/-- One character of inspected text. -/
def inspectChar (c : Char) : String :=
  match c with
  | '\x00' => "\\0"
  | '\t' => "\\t"
  | '\r' => "\\r"
  | '\n' => "\\n"
  | '\\' => "\\\\"
  | '"' => "\\\""
  | c =>
    if isHidden c then
      "\\u\x7b" ++ String.ofList (Nat.toDigits 16 c.toNat) ++ "\x7d"
    else
      c.toString

/-- Text between double quotes, every invisible character escaped. -/
def inspect (text : String) : String :=
  "\"" ++ String.join (text.toList.map inspectChar) ++ "\""

example : inspect "a\"\n\x7f" = "\"a\\\"\\n\\u\x7b7f\x7d\"" := by decide +kernel

example : inspect "e\u0301\u3164\uff9e" = "\"e\\u\x7b301\x7d\\u\x7b3164\x7d\uff9e\"" := by
  decide +kernel

end TableQuery.Text
