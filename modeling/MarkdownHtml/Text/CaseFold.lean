import MarkdownHtml.Text.Lowercase

/-! Full case folding, under which link labels are compared. It is the lowercase mapping except
for the characters listed here. -/

namespace MarkdownHtml.Text

def foldExceptions : Array (Nat × List Nat) := #[
  (0xb5, [0x3bc]), (0xdf, [0x73, 0x73]), (0x149, [0x2bc, 0x6e]), (0x17f, [0x73]), (0x1f0, [0x6a, 0x30c]),
  (0x345, [0x3b9]),
  (0x390, [0x3b9, 0x308, 0x301]), (0x3b0, [0x3c5, 0x308, 0x301]), (0x3c2, [0x3c3]), (0x3d0, [0x3b2]),
  (0x3d1, [0x3b8]), (0x3d5, [0x3c6]), (0x3d6, [0x3c0]), (0x3f0, [0x3ba]), (0x3f1, [0x3c1]), (0x3f5, [0x3b5]),
  (0x587, [0x565, 0x582]), (0x13a0, [0x13a0]), (0x13a1, [0x13a1]), (0x13a2, [0x13a2]), (0x13a3, [0x13a3]),
  (0x13a4, [0x13a4]), (0x13a5, [0x13a5]), (0x13a6, [0x13a6]), (0x13a7, [0x13a7]), (0x13a8, [0x13a8]),
  (0x13a9, [0x13a9]), (0x13aa, [0x13aa]), (0x13ab, [0x13ab]), (0x13ac, [0x13ac]), (0x13ad, [0x13ad]),
  (0x13ae, [0x13ae]), (0x13af, [0x13af]), (0x13b0, [0x13b0]), (0x13b1, [0x13b1]), (0x13b2, [0x13b2]),
  (0x13b3, [0x13b3]), (0x13b4, [0x13b4]), (0x13b5, [0x13b5]), (0x13b6, [0x13b6]), (0x13b7, [0x13b7]),
  (0x13b8, [0x13b8]), (0x13b9, [0x13b9]), (0x13ba, [0x13ba]), (0x13bb, [0x13bb]), (0x13bc, [0x13bc]),
  (0x13bd, [0x13bd]), (0x13be, [0x13be]), (0x13bf, [0x13bf]), (0x13c0, [0x13c0]), (0x13c1, [0x13c1]),
  (0x13c2, [0x13c2]), (0x13c3, [0x13c3]), (0x13c4, [0x13c4]), (0x13c5, [0x13c5]), (0x13c6, [0x13c6]),
  (0x13c7, [0x13c7]), (0x13c8, [0x13c8]), (0x13c9, [0x13c9]), (0x13ca, [0x13ca]), (0x13cb, [0x13cb]),
  (0x13cc, [0x13cc]), (0x13cd, [0x13cd]), (0x13ce, [0x13ce]), (0x13cf, [0x13cf]), (0x13d0, [0x13d0]),
  (0x13d1, [0x13d1]), (0x13d2, [0x13d2]), (0x13d3, [0x13d3]), (0x13d4, [0x13d4]), (0x13d5, [0x13d5]),
  (0x13d6, [0x13d6]), (0x13d7, [0x13d7]), (0x13d8, [0x13d8]), (0x13d9, [0x13d9]), (0x13da, [0x13da]),
  (0x13db, [0x13db]), (0x13dc, [0x13dc]), (0x13dd, [0x13dd]), (0x13de, [0x13de]), (0x13df, [0x13df]),
  (0x13e0, [0x13e0]), (0x13e1, [0x13e1]), (0x13e2, [0x13e2]), (0x13e3, [0x13e3]), (0x13e4, [0x13e4]),
  (0x13e5, [0x13e5]), (0x13e6, [0x13e6]), (0x13e7, [0x13e7]), (0x13e8, [0x13e8]), (0x13e9, [0x13e9]),
  (0x13ea, [0x13ea]), (0x13eb, [0x13eb]), (0x13ec, [0x13ec]), (0x13ed, [0x13ed]), (0x13ee, [0x13ee]),
  (0x13ef, [0x13ef]), (0x13f0, [0x13f0]), (0x13f1, [0x13f1]), (0x13f2, [0x13f2]), (0x13f3, [0x13f3]),
  (0x13f4, [0x13f4]), (0x13f5, [0x13f5]), (0x13f8, [0x13f0]), (0x13f9, [0x13f1]), (0x13fa, [0x13f2]),
  (0x13fb, [0x13f3]), (0x13fc, [0x13f4]), (0x13fd, [0x13f5]), (0x1c80, [0x432]), (0x1c81, [0x434]),
  (0x1c82, [0x43e]), (0x1c83, [0x441]), (0x1c84, [0x442]), (0x1c85, [0x442]), (0x1c86, [0x44a]),
  (0x1c87, [0x463]), (0x1c88, [0xa64b]), (0x1e96, [0x68, 0x331]), (0x1e97, [0x74, 0x308]),
  (0x1e98, [0x77, 0x30a]), (0x1e99, [0x79, 0x30a]), (0x1e9a, [0x61, 0x2be]), (0x1e9b, [0x1e61]),
  (0x1e9e, [0x73, 0x73]), (0x1f50, [0x3c5, 0x313]), (0x1f52, [0x3c5, 0x313, 0x300]),
  (0x1f54, [0x3c5, 0x313, 0x301]), (0x1f56, [0x3c5, 0x313, 0x342]), (0x1f80, [0x1f00, 0x3b9]),
  (0x1f81, [0x1f01, 0x3b9]), (0x1f82, [0x1f02, 0x3b9]), (0x1f83, [0x1f03, 0x3b9]), (0x1f84, [0x1f04, 0x3b9]),
  (0x1f85, [0x1f05, 0x3b9]), (0x1f86, [0x1f06, 0x3b9]), (0x1f87, [0x1f07, 0x3b9]), (0x1f88, [0x1f00, 0x3b9]),
  (0x1f89, [0x1f01, 0x3b9]), (0x1f8a, [0x1f02, 0x3b9]), (0x1f8b, [0x1f03, 0x3b9]), (0x1f8c, [0x1f04, 0x3b9]),
  (0x1f8d, [0x1f05, 0x3b9]), (0x1f8e, [0x1f06, 0x3b9]), (0x1f8f, [0x1f07, 0x3b9]), (0x1f90, [0x1f20, 0x3b9]),
  (0x1f91, [0x1f21, 0x3b9]), (0x1f92, [0x1f22, 0x3b9]), (0x1f93, [0x1f23, 0x3b9]), (0x1f94, [0x1f24, 0x3b9]),
  (0x1f95, [0x1f25, 0x3b9]), (0x1f96, [0x1f26, 0x3b9]), (0x1f97, [0x1f27, 0x3b9]), (0x1f98, [0x1f20, 0x3b9]),
  (0x1f99, [0x1f21, 0x3b9]), (0x1f9a, [0x1f22, 0x3b9]), (0x1f9b, [0x1f23, 0x3b9]), (0x1f9c, [0x1f24, 0x3b9]),
  (0x1f9d, [0x1f25, 0x3b9]), (0x1f9e, [0x1f26, 0x3b9]), (0x1f9f, [0x1f27, 0x3b9]), (0x1fa0, [0x1f60, 0x3b9]),
  (0x1fa1, [0x1f61, 0x3b9]), (0x1fa2, [0x1f62, 0x3b9]), (0x1fa3, [0x1f63, 0x3b9]), (0x1fa4, [0x1f64, 0x3b9]),
  (0x1fa5, [0x1f65, 0x3b9]), (0x1fa6, [0x1f66, 0x3b9]), (0x1fa7, [0x1f67, 0x3b9]), (0x1fa8, [0x1f60, 0x3b9]),
  (0x1fa9, [0x1f61, 0x3b9]), (0x1faa, [0x1f62, 0x3b9]), (0x1fab, [0x1f63, 0x3b9]), (0x1fac, [0x1f64, 0x3b9]),
  (0x1fad, [0x1f65, 0x3b9]), (0x1fae, [0x1f66, 0x3b9]), (0x1faf, [0x1f67, 0x3b9]), (0x1fb2, [0x1f70, 0x3b9]),
  (0x1fb3, [0x3b1, 0x3b9]), (0x1fb4, [0x3ac, 0x3b9]), (0x1fb6, [0x3b1, 0x342]),
  (0x1fb7, [0x3b1, 0x342, 0x3b9]), (0x1fbc, [0x3b1, 0x3b9]), (0x1fbe, [0x3b9]), (0x1fc2, [0x1f74, 0x3b9]),
  (0x1fc3, [0x3b7, 0x3b9]), (0x1fc4, [0x3ae, 0x3b9]), (0x1fc6, [0x3b7, 0x342]),
  (0x1fc7, [0x3b7, 0x342, 0x3b9]), (0x1fcc, [0x3b7, 0x3b9]), (0x1fd2, [0x3b9, 0x308, 0x300]),
  (0x1fd3, [0x3b9, 0x308, 0x301]), (0x1fd6, [0x3b9, 0x342]), (0x1fd7, [0x3b9, 0x308, 0x342]),
  (0x1fe2, [0x3c5, 0x308, 0x300]), (0x1fe3, [0x3c5, 0x308, 0x301]), (0x1fe4, [0x3c1, 0x313]),
  (0x1fe6, [0x3c5, 0x342]), (0x1fe7, [0x3c5, 0x308, 0x342]), (0x1ff2, [0x1f7c, 0x3b9]),
  (0x1ff3, [0x3c9, 0x3b9]), (0x1ff4, [0x3ce, 0x3b9]), (0x1ff6, [0x3c9, 0x342]),
  (0x1ff7, [0x3c9, 0x342, 0x3b9]), (0x1ffc, [0x3c9, 0x3b9]), (0xab70, [0x13a0]), (0xab71, [0x13a1]),
  (0xab72, [0x13a2]), (0xab73, [0x13a3]), (0xab74, [0x13a4]), (0xab75, [0x13a5]), (0xab76, [0x13a6]),
  (0xab77, [0x13a7]), (0xab78, [0x13a8]), (0xab79, [0x13a9]), (0xab7a, [0x13aa]), (0xab7b, [0x13ab]),
  (0xab7c, [0x13ac]), (0xab7d, [0x13ad]), (0xab7e, [0x13ae]), (0xab7f, [0x13af]), (0xab80, [0x13b0]),
  (0xab81, [0x13b1]), (0xab82, [0x13b2]), (0xab83, [0x13b3]), (0xab84, [0x13b4]), (0xab85, [0x13b5]),
  (0xab86, [0x13b6]), (0xab87, [0x13b7]), (0xab88, [0x13b8]), (0xab89, [0x13b9]), (0xab8a, [0x13ba]),
  (0xab8b, [0x13bb]), (0xab8c, [0x13bc]), (0xab8d, [0x13bd]), (0xab8e, [0x13be]), (0xab8f, [0x13bf]),
  (0xab90, [0x13c0]), (0xab91, [0x13c1]), (0xab92, [0x13c2]), (0xab93, [0x13c3]), (0xab94, [0x13c4]),
  (0xab95, [0x13c5]), (0xab96, [0x13c6]), (0xab97, [0x13c7]), (0xab98, [0x13c8]), (0xab99, [0x13c9]),
  (0xab9a, [0x13ca]), (0xab9b, [0x13cb]), (0xab9c, [0x13cc]), (0xab9d, [0x13cd]), (0xab9e, [0x13ce]),
  (0xab9f, [0x13cf]), (0xaba0, [0x13d0]), (0xaba1, [0x13d1]), (0xaba2, [0x13d2]), (0xaba3, [0x13d3]),
  (0xaba4, [0x13d4]), (0xaba5, [0x13d5]), (0xaba6, [0x13d6]), (0xaba7, [0x13d7]), (0xaba8, [0x13d8]),
  (0xaba9, [0x13d9]), (0xabaa, [0x13da]), (0xabab, [0x13db]), (0xabac, [0x13dc]), (0xabad, [0x13dd]),
  (0xabae, [0x13de]), (0xabaf, [0x13df]), (0xabb0, [0x13e0]), (0xabb1, [0x13e1]), (0xabb2, [0x13e2]),
  (0xabb3, [0x13e3]), (0xabb4, [0x13e4]), (0xabb5, [0x13e5]), (0xabb6, [0x13e6]), (0xabb7, [0x13e7]),
  (0xabb8, [0x13e8]), (0xabb9, [0x13e9]), (0xabba, [0x13ea]), (0xabbb, [0x13eb]), (0xabbc, [0x13ec]),
  (0xabbd, [0x13ed]), (0xabbe, [0x13ee]), (0xabbf, [0x13ef]), (0xfb00, [0x66, 0x66]), (0xfb01, [0x66, 0x69]),
  (0xfb02, [0x66, 0x6c]), (0xfb03, [0x66, 0x66, 0x69]), (0xfb04, [0x66, 0x66, 0x6c]), (0xfb05, [0x73, 0x74]),
  (0xfb06, [0x73, 0x74]), (0xfb13, [0x574, 0x576]), (0xfb14, [0x574, 0x565]), (0xfb15, [0x574, 0x56b]),
  (0xfb16, [0x57e, 0x576]), (0xfb17, [0x574, 0x56d])]

def foldChar (c : Char) : List Char :=
  if c.toNat < 0x80 then [c.toLower]
  else match foldExceptions.find? (·.1 == c.toNat) with
    | some (_, folded) => folded.map Char.ofNat
    | none => lowercaseChar c

def foldCase (text : List Char) : List Char := text.flatMap foldChar

end MarkdownHtml.Text
