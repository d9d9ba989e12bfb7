import YamlDialects.Text.CharSet

set_option autoImplicit false

namespace YamlDialects.Text

structure FoldRun where
  first : Nat
  last : Nat
  step : Nat
  distance : Nat

def foldRuns : List FoldRun := [
  ⟨0x61, 0x7a, 1, 0x20⟩, ⟨0xe0, 0xf6, 1, 0x20⟩, ⟨0xf8, 0xfe, 1, 0x20⟩, ⟨0x101, 0x12f, 2, 0x1⟩,
  ⟨0x133, 0x137, 2, 0x1⟩, ⟨0x13a, 0x148, 2, 0x1⟩, ⟨0x14b, 0x177, 2, 0x1⟩, ⟨0x178, 0x178, 1, 0x79⟩,
  ⟨0x17a, 0x17e, 2, 0x1⟩, ⟨0x17f, 0x17f, 1, 0x12c⟩, ⟨0x183, 0x185, 2, 0x1⟩, ⟨0x188, 0x188, 1, 0x1⟩,
  ⟨0x18c, 0x18c, 1, 0x1⟩, ⟨0x192, 0x192, 1, 0x1⟩, ⟨0x199, 0x199, 1, 0x1⟩, ⟨0x1a1, 0x1a5, 2, 0x1⟩,
  ⟨0x1a8, 0x1a8, 1, 0x1⟩, ⟨0x1ad, 0x1ad, 1, 0x1⟩, ⟨0x1b0, 0x1b0, 1, 0x1⟩, ⟨0x1b4, 0x1b6, 2, 0x1⟩,
  ⟨0x1b9, 0x1b9, 1, 0x1⟩, ⟨0x1bd, 0x1bd, 1, 0x1⟩, ⟨0x1c5, 0x1c5, 1, 0x1⟩, ⟨0x1c6, 0x1c6, 1, 0x2⟩,
  ⟨0x1c8, 0x1c8, 1, 0x1⟩, ⟨0x1c9, 0x1c9, 1, 0x2⟩, ⟨0x1cb, 0x1cb, 1, 0x1⟩, ⟨0x1cc, 0x1cc, 1, 0x2⟩,
  ⟨0x1ce, 0x1dc, 2, 0x1⟩, ⟨0x1dd, 0x1dd, 1, 0x4f⟩, ⟨0x1df, 0x1ef, 2, 0x1⟩, ⟨0x1f2, 0x1f2, 1, 0x1⟩,
  ⟨0x1f3, 0x1f3, 1, 0x2⟩, ⟨0x1f5, 0x1f5, 1, 0x1⟩, ⟨0x1f6, 0x1f6, 1, 0x61⟩, ⟨0x1f7, 0x1f7, 1, 0x38⟩,
  ⟨0x1f9, 0x21f, 2, 0x1⟩, ⟨0x220, 0x220, 1, 0x82⟩, ⟨0x223, 0x233, 2, 0x1⟩, ⟨0x23c, 0x23c, 1, 0x1⟩,
  ⟨0x23d, 0x23d, 1, 0xa3⟩, ⟨0x242, 0x242, 1, 0x1⟩, ⟨0x243, 0x243, 1, 0xc3⟩, ⟨0x247, 0x24f, 2, 0x1⟩,
  ⟨0x253, 0x253, 1, 0xd2⟩, ⟨0x254, 0x254, 1, 0xce⟩, ⟨0x256, 0x257, 1, 0xcd⟩, ⟨0x259, 0x259, 1, 0xca⟩,
  ⟨0x25b, 0x25b, 1, 0xcb⟩, ⟨0x260, 0x260, 1, 0xcd⟩, ⟨0x263, 0x263, 1, 0xcf⟩, ⟨0x268, 0x268, 1, 0xd1⟩,
  ⟨0x269, 0x269, 1, 0xd3⟩, ⟨0x26f, 0x26f, 1, 0xd3⟩, ⟨0x272, 0x272, 1, 0xd5⟩, ⟨0x275, 0x275, 1, 0xd6⟩,
  ⟨0x280, 0x280, 1, 0xda⟩, ⟨0x283, 0x283, 1, 0xda⟩, ⟨0x288, 0x288, 1, 0xda⟩, ⟨0x289, 0x289, 1, 0x45⟩,
  ⟨0x28a, 0x28b, 1, 0xd9⟩, ⟨0x28c, 0x28c, 1, 0x47⟩, ⟨0x292, 0x292, 1, 0xdb⟩, ⟨0x371, 0x373, 2, 0x1⟩,
  ⟨0x377, 0x377, 1, 0x1⟩, ⟨0x399, 0x399, 1, 0x54⟩, ⟨0x39c, 0x39c, 1, 0x2e7⟩, ⟨0x3ac, 0x3ac, 1, 0x26⟩,
  ⟨0x3ad, 0x3af, 1, 0x25⟩, ⟨0x3b1, 0x3b8, 1, 0x20⟩, ⟨0x3b9, 0x3b9, 1, 0x74⟩, ⟨0x3ba, 0x3bb, 1, 0x20⟩,
  ⟨0x3bc, 0x3bc, 1, 0x307⟩, ⟨0x3bd, 0x3cb, 2, 0x20⟩, ⟨0x3be, 0x3c0, 2, 0x20⟩, ⟨0x3c2, 0x3c2, 1, 0x1f⟩,
  ⟨0x3c4, 0x3ca, 2, 0x20⟩, ⟨0x3cc, 0x3cc, 1, 0x40⟩, ⟨0x3cd, 0x3ce, 1, 0x3f⟩, ⟨0x3d0, 0x3d0, 1, 0x3e⟩,
  ⟨0x3d1, 0x3d1, 1, 0x39⟩, ⟨0x3d5, 0x3d5, 1, 0x2f⟩, ⟨0x3d6, 0x3d6, 1, 0x36⟩, ⟨0x3d7, 0x3d7, 1, 0x8⟩,
  ⟨0x3d9, 0x3ef, 2, 0x1⟩, ⟨0x3f0, 0x3f0, 1, 0x56⟩, ⟨0x3f1, 0x3f1, 1, 0x50⟩, ⟨0x3f3, 0x3f3, 1, 0x74⟩,
  ⟨0x3f4, 0x3f4, 1, 0x5c⟩, ⟨0x3f5, 0x3f5, 1, 0x60⟩, ⟨0x3f8, 0x3f8, 1, 0x1⟩, ⟨0x3f9, 0x3f9, 1, 0x7⟩,
  ⟨0x3fb, 0x3fb, 1, 0x1⟩, ⟨0x3fd, 0x3ff, 1, 0x82⟩, ⟨0x430, 0x44f, 1, 0x20⟩, ⟨0x450, 0x45f, 1, 0x50⟩,
  ⟨0x461, 0x481, 2, 0x1⟩, ⟨0x48b, 0x4bf, 2, 0x1⟩, ⟨0x4c2, 0x4ce, 2, 0x1⟩, ⟨0x4cf, 0x4cf, 1, 0xf⟩,
  ⟨0x4d1, 0x52f, 2, 0x1⟩, ⟨0x561, 0x586, 1, 0x30⟩, ⟨0x13f8, 0x13fd, 1, 0x8⟩, ⟨0x1c80, 0x1c80, 1, 0x186e⟩,
  ⟨0x1c81, 0x1c81, 1, 0x186d⟩, ⟨0x1c82, 0x1c82, 1, 0x1864⟩, ⟨0x1c83, 0x1c84, 1, 0x1862⟩,
  ⟨0x1c85, 0x1c85, 1, 0x1863⟩, ⟨0x1c86, 0x1c86, 1, 0x185c⟩, ⟨0x1c87, 0x1c87, 1, 0x1825⟩,
  ⟨0x1c8a, 0x1c8a, 1, 0x1⟩, ⟨0x1c90, 0x1cba, 1, 0xbc0⟩, ⟨0x1cbd, 0x1cbf, 1, 0xbc0⟩,
  ⟨0x1e01, 0x1e95, 2, 0x1⟩, ⟨0x1e9b, 0x1e9b, 1, 0x3b⟩, ⟨0x1e9e, 0x1e9e, 1, 0x1dbf⟩,
  ⟨0x1ea1, 0x1eff, 2, 0x1⟩, ⟨0x1f08, 0x1f0f, 1, 0x8⟩, ⟨0x1f18, 0x1f1d, 1, 0x8⟩, ⟨0x1f28, 0x1f2f, 1, 0x8⟩,
  ⟨0x1f38, 0x1f3f, 1, 0x8⟩, ⟨0x1f48, 0x1f4d, 1, 0x8⟩, ⟨0x1f59, 0x1f5f, 2, 0x8⟩, ⟨0x1f68, 0x1f6f, 1, 0x8⟩,
  ⟨0x1f88, 0x1f8f, 1, 0x8⟩, ⟨0x1f98, 0x1f9f, 1, 0x8⟩, ⟨0x1fa8, 0x1faf, 1, 0x8⟩, ⟨0x1fb8, 0x1fb9, 1, 0x8⟩,
  ⟨0x1fba, 0x1fbb, 1, 0x4a⟩, ⟨0x1fbc, 0x1fbc, 1, 0x9⟩, ⟨0x1fbe, 0x1fbe, 1, 0x1c79⟩,
  ⟨0x1fc8, 0x1fcb, 1, 0x56⟩, ⟨0x1fcc, 0x1fcc, 1, 0x9⟩, ⟨0x1fd3, 0x1fd3, 1, 0x1c43⟩,
  ⟨0x1fd8, 0x1fd9, 1, 0x8⟩, ⟨0x1fda, 0x1fdb, 1, 0x64⟩, ⟨0x1fe3, 0x1fe3, 1, 0x1c33⟩,
  ⟨0x1fe8, 0x1fe9, 1, 0x8⟩, ⟨0x1fea, 0x1feb, 1, 0x70⟩, ⟨0x1fec, 0x1fec, 1, 0x7⟩,
  ⟨0x1ff8, 0x1ff9, 1, 0x80⟩, ⟨0x1ffa, 0x1ffb, 1, 0x7e⟩, ⟨0x1ffc, 0x1ffc, 1, 0x9⟩,
  ⟨0x2126, 0x2126, 1, 0x1d7d⟩, ⟨0x212a, 0x212a, 1, 0x20df⟩, ⟨0x212b, 0x212b, 1, 0x2066⟩,
  ⟨0x214e, 0x214e, 1, 0x1c⟩, ⟨0x2170, 0x217f, 1, 0x10⟩, ⟨0x2184, 0x2184, 1, 0x1⟩,
  ⟨0x24d0, 0x24e9, 1, 0x1a⟩, ⟨0x2c30, 0x2c5f, 1, 0x30⟩, ⟨0x2c61, 0x2c61, 1, 0x1⟩,
  ⟨0x2c62, 0x2c62, 1, 0x29f7⟩, ⟨0x2c63, 0x2c63, 1, 0xee6⟩, ⟨0x2c64, 0x2c64, 1, 0x29e7⟩,
  ⟨0x2c65, 0x2c65, 1, 0x2a2b⟩, ⟨0x2c66, 0x2c66, 1, 0x2a28⟩, ⟨0x2c68, 0x2c6c, 2, 0x1⟩,
  ⟨0x2c6d, 0x2c6d, 1, 0x2a1c⟩, ⟨0x2c6e, 0x2c6e, 1, 0x29fd⟩, ⟨0x2c6f, 0x2c6f, 1, 0x2a1f⟩,
  ⟨0x2c70, 0x2c70, 1, 0x2a1e⟩, ⟨0x2c73, 0x2c73, 1, 0x1⟩, ⟨0x2c76, 0x2c76, 1, 0x1⟩,
  ⟨0x2c7e, 0x2c7f, 1, 0x2a3f⟩, ⟨0x2c81, 0x2ce3, 2, 0x1⟩, ⟨0x2cec, 0x2cee, 2, 0x1⟩,
  ⟨0x2cf3, 0x2cf3, 1, 0x1⟩, ⟨0x2d00, 0x2d25, 1, 0x1c60⟩, ⟨0x2d27, 0x2d27, 1, 0x1c60⟩,
  ⟨0x2d2d, 0x2d2d, 1, 0x1c60⟩, ⟨0xa641, 0xa649, 2, 0x1⟩, ⟨0xa64a, 0xa64a, 1, 0x89c2⟩,
  ⟨0xa64b, 0xa64b, 1, 0x89c3⟩, ⟨0xa64d, 0xa66d, 2, 0x1⟩, ⟨0xa681, 0xa69b, 2, 0x1⟩,
  ⟨0xa723, 0xa72f, 2, 0x1⟩, ⟨0xa733, 0xa76f, 2, 0x1⟩, ⟨0xa77a, 0xa77c, 2, 0x1⟩,
  ⟨0xa77d, 0xa77d, 1, 0x8a04⟩, ⟨0xa77f, 0xa787, 2, 0x1⟩, ⟨0xa78c, 0xa78c, 1, 0x1⟩,
  ⟨0xa78d, 0xa78d, 1, 0xa528⟩, ⟨0xa791, 0xa793, 2, 0x1⟩, ⟨0xa797, 0xa7a9, 2, 0x1⟩,
  ⟨0xa7aa, 0xa7aa, 1, 0xa544⟩, ⟨0xa7ab, 0xa7ab, 1, 0xa54f⟩, ⟨0xa7ac, 0xa7ac, 1, 0xa54b⟩,
  ⟨0xa7ad, 0xa7ad, 1, 0xa541⟩, ⟨0xa7ae, 0xa7ae, 1, 0xa544⟩, ⟨0xa7b0, 0xa7b0, 1, 0xa512⟩,
  ⟨0xa7b1, 0xa7b1, 1, 0xa52a⟩, ⟨0xa7b2, 0xa7b2, 1, 0xa515⟩, ⟨0xa7b5, 0xa7c3, 2, 0x1⟩,
  ⟨0xa7c4, 0xa7c4, 1, 0x30⟩, ⟨0xa7c5, 0xa7c5, 1, 0xa543⟩, ⟨0xa7c6, 0xa7c6, 1, 0x8a38⟩,
  ⟨0xa7c8, 0xa7ca, 2, 0x1⟩, ⟨0xa7cb, 0xa7cb, 1, 0xa567⟩, ⟨0xa7cd, 0xa7db, 2, 0x1⟩,
  ⟨0xa7dc, 0xa7dc, 1, 0xa641⟩, ⟨0xa7f6, 0xa7f6, 1, 0x1⟩, ⟨0xab53, 0xab53, 1, 0x3a0⟩,
  ⟨0xab70, 0xabbf, 1, 0x97d0⟩, ⟨0xfb06, 0xfb06, 1, 0x1⟩, ⟨0xff41, 0xff5a, 1, 0x20⟩,
  ⟨0x10428, 0x1044f, 1, 0x28⟩, ⟨0x104d8, 0x104fb, 1, 0x28⟩, ⟨0x10597, 0x105bb, 2, 0x27⟩,
  ⟨0x10598, 0x105a0, 2, 0x27⟩, ⟨0x105a4, 0x105b0, 2, 0x27⟩, ⟨0x105b4, 0x105b8, 2, 0x27⟩,
  ⟨0x105bc, 0x105bc, 1, 0x27⟩, ⟨0x10cc0, 0x10cf2, 1, 0x40⟩, ⟨0x10d70, 0x10d85, 1, 0x20⟩,
  ⟨0x118c0, 0x118df, 1, 0x20⟩, ⟨0x16e60, 0x16e7f, 1, 0x20⟩, ⟨0x16ebb, 0x16ed3, 1, 0x1b⟩,
  ⟨0x1e922, 0x1e943, 1, 0x22⟩]

def FoldRun.pairs (run : FoldRun) : List (Nat × Nat) :=
  (List.range ((run.last - run.first) / run.step + 1)).map fun position =>
    let code := run.first + run.step * position
    (code, code - run.distance)

def foldPairs : List (Nat × Nat) :=
  foldRuns.flatMap FoldRun.pairs

def CharSet.anyCase (set : CharSet) : CharSet :=
  let lowest := foldPairs.filterMap fun (code, low) =>
    if set.contains code || set.contains low then some low else none
  let variants := foldPairs.filterMap fun (code, low) => if lowest.contains low then some code else none
  .ofRanges (set.ranges ++ (lowest ++ variants).map fun code => (code, code))

def CharSet.anyAsciiCase (set : CharSet) : CharSet :=
  let letters := (List.range 26).flatMap fun position =>
    if set.contains (0x41 + position) || set.contains (0x61 + position) then [0x41 + position, 0x61 + position] else []
  .ofRanges (set.ranges ++ letters.map fun code => (code, code))

end YamlDialects.Text
