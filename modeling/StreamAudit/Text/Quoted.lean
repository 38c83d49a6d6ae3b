import StreamAudit.Text.Characters

/-!
# Quoted text

Text between double quotes, on one line and readable as it stands. A quote and
a backslash are marked by a backslash; tab, carriage return, line feed and NUL
have a letter of their own; any other character of a hidden class is written
as its code point in lower-case hexadecimal. The class is a parameter; messages
take one with the controls and with all that cannot be seen or cannot be read
alone.
-/

namespace StreamAudit.Text

/-- The halfwidth sound marks of Katakana. They extend the letter before them
and yet take a place of their own, so they can be read alone. -/
def isSoundMark (c : Char) : Bool :=
  c = '\uFF9E' || c = '\uFF9F'

/-- Characters shown by their code point: they are not graphic, or show nothing
where they are not supported, or are drawn on the character before them. -/
def isHidden (c : Char) : Bool :=
  !isGraphic c || isIgnorable c || (isExtending c && !isSoundMark c)

/-- The controls, and these characters besides. -/
def controlsAnd (further : Char → Bool) (c : Char) : Bool :=
  isControl c || further c

theorem controlsAnd_of_isControl {further : Char → Bool} {c : Char} (h : isControl c = true) :
    controlsAnd further c = true := by
  rw [controlsAnd, h, Bool.true_or]

/-- A code point between braces, in hexadecimal without leading zeros. -/
def codePoint (c : Char) : List Char :=
  '\\' :: 'u' :: '\x7b' :: Nat.toDigits 16 c.toNat ++ ['\x7d']

def escape (hidden : Char → Bool) (c : Char) : List Char :=
  if c = '\x22' then ['\\', '\x22']
  else if c = '\\' then ['\\', '\\']
  else if c = '\t' then ['\\', 't']
  else if c = '\r' then ['\\', 'r']
  else if c = '\n' then ['\\', 'n']
  else if c = '\x00' then ['\\', '0']
  else if hidden c then codePoint c
  else [c]

def quote (hidden : Char → Bool) (text : List Char) : List Char :=
  '\x22' :: text.flatMap (escape hidden) ++ ['\x22']

end StreamAudit.Text
