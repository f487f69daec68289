namespace PluggableHost.Text

/-!
# Blank text

A setting that holds nothing but white space counts as missing. White space is
the Unicode property of that name, not the six ASCII characters alone.
-/

/-- The code points with the White_Space property. -/
def isBlank (character : Char) : Bool :=
  let code := character.toNat
  (9 ≤ code && code ≤ 13) || code == 0x20 || code == 0x85 || code == 0xa0 ||
    code == 0x1680 || (0x2000 ≤ code && code ≤ 0x200a) ||
    code == 0x2028 || code == 0x2029 || code == 0x202f || code == 0x205f ||
    code == 0x3000

/-- The text is blank throughout. -/
def allBlank (text : String) : Bool :=
  text.toList.all isBlank

/-- The text without the white space at its two ends. -/
def trimmed (text : String) : String :=
  String.ofList
    ((text.toList.dropWhile isBlank).reverse.dropWhile isBlank).reverse

@[simp] theorem allBlank_empty : allBlank "" = true := rfl

end PluggableHost.Text
