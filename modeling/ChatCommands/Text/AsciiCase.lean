/-!
# Equality up to ASCII case

Two texts agree up to ASCII case when they become equal after `A` to `Z` are replaced by `a` to
`z`. No other character is folded, so `É` and `é` stay apart.
-/

namespace ChatCommands.Text

def foldAscii (s : String) : String :=
  s.map Char.toLower

def sameUpToAsciiCase (a b : String) : Bool :=
  foldAscii a == foldAscii b

theorem sameUpToAsciiCase_iff {a b : String} :
    sameUpToAsciiCase a b = true ↔ foldAscii a = foldAscii b := by
  simp [sameUpToAsciiCase]

theorem sameUpToAsciiCase_refl (a : String) : sameUpToAsciiCase a a = true := by
  simp [sameUpToAsciiCase]

end ChatCommands.Text
