/-! The characters that separate words: those with the Unicode property White_Space. -/
namespace CommandShell

def isBlank (c : Char) : Bool :=
  let n := c.toNat
  (0x09 ≤ n && n ≤ 0x0D) || n == 0x20 || n == 0x85 || n == 0xA0 || n == 0x1680 ||
    (0x2000 ≤ n && n ≤ 0x200A) || n == 0x2028 || n == 0x2029 || n == 0x202F ||
    n == 0x205F || n == 0x3000

theorem isBlank_quote : isBlank '\'' = false := by decide

theorem isBlank_doubleQuote : isBlank '"' = false := by decide

theorem isBlank_backslash : isBlank '\\' = false := by decide

end CommandShell
