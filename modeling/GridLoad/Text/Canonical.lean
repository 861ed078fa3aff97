import GridLoad.Text.Rows

/-!
Characters that mean the same as one or two others. `decomposition?` goes one step towards the parts, and
`composition?` takes two parts back to the character made of them, where there is one for new texts.
-/

set_option autoImplicit false

namespace GridLoad.Text

-- Characters that two others are written as when they meet, with those two.
def pairRows : Rows := [
    (0xc0, "A\u0300A\u0301A\u0302A\u0303A\u0308A\u030a"),
    (0xc7, "C\u0327E\u0300E\u0301E\u0302E\u0308I\u0300I\u0301I\u0302I\u0308"),
    (0xd1, "N\u0303O\u0300O\u0301O\u0302O\u0303O\u0308"), (0xd9, "U\u0300U\u0301U\u0302U\u0308Y\u0301"),
    (0xe0, "a\u0300a\u0301a\u0302a\u0303a\u0308a\u030a"),
    (0xe7, "c\u0327e\u0300e\u0301e\u0302e\u0308i\u0300i\u0301i\u0302i\u0308"),
    (0xf1, "n\u0303o\u0300o\u0301o\u0302o\u0303o\u0308"), (0xf9, "u\u0300u\u0301u\u0302u\u0308y\u0301"),
    (0xff, "y\u0308A\u0304a\u0304A\u0306a\u0306A\u0328a\u0328C\u0301c\u0301C\u0302c\u0302C\u0307c\u0307"),
    (0x10c, "C\u030cc\u030cD\u030cd\u030c"),
    (0x112, "E\u0304e\u0304E\u0306e\u0306E\u0307e\u0307E\u0328e\u0328E\u030ce\u030cG\u0302g\u0302G\u0306"),
    (0x11f, "g\u0306G\u0307g\u0307G\u0327g\u0327H\u0302h\u0302"),
    (0x128, "I\u0303i\u0303I\u0304i\u0304I\u0306i\u0306I\u0328i\u0328I\u0307"),
    (0x134, "J\u0302j\u0302K\u0327k\u0327"), (0x139, "L\u0301l\u0301L\u0327l\u0327L\u030cl\u030c"),
    (0x143, "N\u0301n\u0301N\u0327n\u0327N\u030cn\u030c"), (0x14c, "O\u0304o\u0304O\u0306o\u0306O\u030bo\u030b"),
    (0x154, "R\u0301r\u0301R\u0327r\u0327R\u030cr\u030cS\u0301s\u0301S\u0302s\u0302S\u0327s\u0327S\u030c"),
    (0x161, "s\u030cT\u0327t\u0327T\u030ct\u030c"),
    (0x168, "U\u0303u\u0303U\u0304u\u0304U\u0306u\u0306U\u030au\u030aU\u030bu\u030bU\u0328u\u0328W\u0302"),
    (0x175, "w\u0302Y\u0302y\u0302Y\u0308Z\u0301z\u0301Z\u0307z\u0307Z\u030cz\u030c"), (0x1a0, "O\u031bo\u031b"),
    (0x1af, "U\u031bu\u031b"),
    (0x1cd, "A\u030ca\u030cI\u030ci\u030cO\u030co\u030cU\u030cu\u030c\u00dc\u0304\u00fc\u0304\u00dc\u0301"),
    (0x1d8, "\u00fc\u0301\u00dc\u030c\u00fc\u030c\u00dc\u0300\u00fc\u0300"),
    (0x1de, "\u00c4\u0304\u00e4\u0304\u0226\u0304\u0227\u0304Æ\u0304æ\u0304"),
    (0x1e6, "G\u030cg\u030cK\u030ck\u030cO\u0328o\u0328\u01ea\u0304\u01eb\u0304Ʒ\u030cʒ\u030cj\u030c"),
    (0x1f4, "G\u0301g\u0301"),
    (0x1f8, "N\u0300n\u0300\u00c5\u0301\u00e5\u0301Æ\u0301æ\u0301Ø\u0301ø\u0301A\u030fa\u030fA\u0311a\u0311"),
    (0x204, "E\u030fe\u030fE\u0311e\u0311I\u030fi\u030fI\u0311i\u0311O\u030fo\u030fO\u0311o\u0311R\u030f"),
    (0x211, "r\u030fR\u0311r\u0311U\u030fu\u030fU\u0311u\u0311S\u0326s\u0326T\u0326t\u0326"),
    (0x21e, "H\u030ch\u030c"),
    (0x226, "A\u0307a\u0307E\u0327e\u0327\u00d6\u0304\u00f6\u0304\u00d5\u0304\u00f5\u0304O\u0307o\u0307"),
    (0x230, "\u022e\u0304\u022f\u0304Y\u0304y\u0304"), (0x385, "\u00a8\u0301Α\u0301"),
    (0x388, "Ε\u0301Η\u0301Ι\u0301"), (0x38c, "Ο\u0301"), (0x38e, "Υ\u0301Ω\u0301\u03ca\u0301"),
    (0x3aa, "Ι\u0308Υ\u0308α\u0301ε\u0301η\u0301ι\u0301\u03cb\u0301"),
    (0x3ca, "ι\u0308υ\u0308ο\u0301υ\u0301ω\u0301"), (0x3d3, "ϒ\u0301ϒ\u0308"), (0x400, "Е\u0300Е\u0308"),
    (0x403, "Г\u0301"), (0x407, "І\u0308"), (0x40c, "К\u0301И\u0300У\u0306"), (0x419, "И\u0306"),
    (0x439, "и\u0306"), (0x450, "е\u0300е\u0308"), (0x453, "г\u0301"), (0x457, "і\u0308"),
    (0x45c, "к\u0301и\u0300у\u0306"), (0x476, "Ѵ\u030fѵ\u030f"), (0x4c1, "Ж\u0306ж\u0306"),
    (0x4d0, "А\u0306а\u0306А\u0308а\u0308"), (0x4d6, "Е\u0306е\u0306"),
    (0x4da, "Ә\u0308ә\u0308Ж\u0308ж\u0308З\u0308з\u0308"), (0x4e2, "И\u0304и\u0304И\u0308и\u0308О\u0308о\u0308"),
    (0x4ea, "Ө\u0308ө\u0308Э\u0308э\u0308У\u0304у\u0304У\u0308у\u0308У\u030bу\u030bЧ\u0308ч\u0308"),
    (0x4f8, "Ы\u0308ы\u0308"), (0x622, "\u0627\u0653\u0627\u0654\u0648\u0654\u0627\u0655\u064a\u0654"),
    (0x6c0, "\u06d5\u0654"), (0x6c2, "\u06c1\u0654"), (0x6d3, "\u06d2\u0654"), (0x929, "न\u093c"),
    (0x931, "र\u093c"), (0x934, "ळ\u093c"), (0x9cb, "\u09c7\u09be\u09c7\u09d7"), (0xb48, "\u0b47\u0b56"),
    (0xb4b, "\u0b47\u0b3e\u0b47\u0b57"), (0xb94, "ஒ\u0bd7"), (0xbca, "\u0bc6\u0bbe\u0bc7\u0bbe\u0bc6\u0bd7"),
    (0xc48, "\u0c46\u0c56"), (0xcc0, "\u0cbf\u0cd5"), (0xcc7, "\u0cc6\u0cd5\u0cc6\u0cd6"),
    (0xcca, "\u0cc6\u0cc2\u0cca\u0cd5"), (0xd4a, "\u0d46\u0d3e\u0d47\u0d3e\u0d46\u0d57"), (0xdda, "\u0dd9\u0dca"),
    (0xddc, "\u0dd9\u0dcf\u0ddc\u0dca\u0dd9\u0ddf"), (0x1026, "ဥ\u102e"), (0x1b06, "ᬅ\u1b35"), (0x1b08, "ᬇ\u1b35"),
    (0x1b0a, "ᬉ\u1b35"), (0x1b0c, "ᬋ\u1b35"), (0x1b0e, "ᬍ\u1b35"), (0x1b12, "ᬑ\u1b35"), (0x1b3b, "\u1b3a\u1b35"),
    (0x1b3d, "\u1b3c\u1b35"), (0x1b40, "\u1b3e\u1b35\u1b3f\u1b35"), (0x1b43, "\u1b42\u1b35"),
    (0x1e00, "A\u0325a\u0325B\u0307b\u0307B\u0323b\u0323B\u0331b\u0331\u00c7\u0301\u00e7\u0301D\u0307d\u0307"),
    (0x1e0c, "D\u0323d\u0323D\u0331d\u0331D\u0327d\u0327D\u032dd\u032d\u0112\u0300\u0113\u0300\u0112\u0301"),
    (0x1e17, "\u0113\u0301E\u032de\u032dE\u0330e\u0330\u0228\u0306\u0229\u0306F\u0307f\u0307G\u0304g\u0304"),
    (0x1e22, "H\u0307h\u0307H\u0323h\u0323H\u0308h\u0308H\u0327h\u0327H\u032eh\u032eI\u0330i\u0330\u00cf\u0301"),
    (0x1e2f, "\u00ef\u0301K\u0301k\u0301K\u0323k\u0323K\u0331k\u0331L\u0323l\u0323\u1e36\u0304\u1e37\u0304"),
    (0x1e3a, "L\u0331l\u0331L\u032dl\u032dM\u0301m\u0301M\u0307m\u0307M\u0323m\u0323N\u0307n\u0307N\u0323"),
    (0x1e47, "n\u0323N\u0331n\u0331N\u032dn\u032d\u00d5\u0301\u00f5\u0301\u00d5\u0308\u00f5\u0308\u014c\u0300"),
    (0x1e51, "\u014d\u0300\u014c\u0301\u014d\u0301P\u0301p\u0301P\u0307p\u0307R\u0307r\u0307R\u0323r\u0323"),
    (0x1e5c, "\u1e5a\u0304\u1e5b\u0304R\u0331r\u0331S\u0307s\u0307S\u0323s\u0323\u015a\u0307\u015b\u0307"),
    (0x1e66, "\u0160\u0307\u0161\u0307\u1e62\u0307\u1e63\u0307T\u0307t\u0307T\u0323t\u0323T\u0331t\u0331"),
    (0x1e70, "T\u032dt\u032dU\u0324u\u0324U\u0330u\u0330U\u032du\u032d\u0168\u0301\u0169\u0301\u016a\u0308"),
    (0x1e7b, "\u016b\u0308V\u0303v\u0303V\u0323v\u0323W\u0300w\u0300W\u0301w\u0301W\u0308w\u0308W\u0307w\u0307"),
    (0x1e88, "W\u0323w\u0323X\u0307x\u0307X\u0308x\u0308Y\u0307y\u0307Z\u0302z\u0302Z\u0323z\u0323Z\u0331"),
    (0x1e95, "z\u0331h\u0331t\u0308w\u030ay\u030a"), (0x1e9b, "ſ\u0307"),
    (0x1ea0, "A\u0323a\u0323A\u0309a\u0309\u00c2\u0301\u00e2\u0301\u00c2\u0300\u00e2\u0300\u00c2\u0309"),
    (0x1ea9, "\u00e2\u0309\u00c2\u0303\u00e2\u0303\u1ea0\u0302\u1ea1\u0302\u0102\u0301\u0103\u0301\u0102\u0300"),
    (0x1eb1, "\u0103\u0300\u0102\u0309\u0103\u0309\u0102\u0303\u0103\u0303\u1ea0\u0306\u1ea1\u0306E\u0323"),
    (0x1eb9, "e\u0323E\u0309e\u0309E\u0303e\u0303\u00ca\u0301\u00ea\u0301\u00ca\u0300\u00ea\u0300\u00ca\u0309"),
    (0x1ec3, "\u00ea\u0309\u00ca\u0303\u00ea\u0303\u1eb8\u0302\u1eb9\u0302I\u0309i\u0309I\u0323i\u0323O\u0323"),
    (0x1ecd, "o\u0323O\u0309o\u0309\u00d4\u0301\u00f4\u0301\u00d4\u0300\u00f4\u0300\u00d4\u0309\u00f4\u0309"),
    (0x1ed6, "\u00d4\u0303\u00f4\u0303\u1ecc\u0302\u1ecd\u0302\u01a0\u0301\u01a1\u0301\u01a0\u0300\u01a1\u0300"),
    (0x1ede, "\u01a0\u0309\u01a1\u0309\u01a0\u0303\u01a1\u0303\u01a0\u0323\u01a1\u0323U\u0323u\u0323U\u0309"),
    (0x1ee7, "u\u0309\u01af\u0301\u01b0\u0301\u01af\u0300\u01b0\u0300\u01af\u0309\u01b0\u0309\u01af\u0303"),
    (0x1eef, "\u01b0\u0303\u01af\u0323\u01b0\u0323Y\u0300y\u0300Y\u0323y\u0323Y\u0309y\u0309Y\u0303y\u0303"),
    (0x1f00, "α\u0313α\u0314\u1f00\u0300\u1f01\u0300\u1f00\u0301\u1f01\u0301\u1f00\u0342\u1f01\u0342Α\u0313"),
    (0x1f09, "Α\u0314\u1f08\u0300\u1f09\u0300\u1f08\u0301\u1f09\u0301\u1f08\u0342\u1f09\u0342ε\u0313ε\u0314"),
    (0x1f12, "\u1f10\u0300\u1f11\u0300\u1f10\u0301\u1f11\u0301"),
    (0x1f18, "Ε\u0313Ε\u0314\u1f18\u0300\u1f19\u0300\u1f18\u0301\u1f19\u0301"),
    (0x1f20, "η\u0313η\u0314\u1f20\u0300\u1f21\u0300\u1f20\u0301\u1f21\u0301\u1f20\u0342\u1f21\u0342Η\u0313"),
    (0x1f29, "Η\u0314\u1f28\u0300\u1f29\u0300\u1f28\u0301\u1f29\u0301\u1f28\u0342\u1f29\u0342ι\u0313ι\u0314"),
    (0x1f32, "\u1f30\u0300\u1f31\u0300\u1f30\u0301\u1f31\u0301\u1f30\u0342\u1f31\u0342Ι\u0313Ι\u0314"),
    (0x1f3a, "\u1f38\u0300\u1f39\u0300\u1f38\u0301\u1f39\u0301\u1f38\u0342\u1f39\u0342ο\u0313ο\u0314"),
    (0x1f42, "\u1f40\u0300\u1f41\u0300\u1f40\u0301\u1f41\u0301"),
    (0x1f48, "Ο\u0313Ο\u0314\u1f48\u0300\u1f49\u0300\u1f48\u0301\u1f49\u0301"),
    (0x1f50, "υ\u0313υ\u0314\u1f50\u0300\u1f51\u0300\u1f50\u0301\u1f51\u0301\u1f50\u0342\u1f51\u0342"),
    (0x1f59, "Υ\u0314"), (0x1f5b, "\u1f59\u0300"), (0x1f5d, "\u1f59\u0301"),
    (0x1f5f, "\u1f59\u0342ω\u0313ω\u0314\u1f60\u0300\u1f61\u0300\u1f60\u0301\u1f61\u0301\u1f60\u0342"),
    (0x1f67, "\u1f61\u0342Ω\u0313Ω\u0314\u1f68\u0300\u1f69\u0300\u1f68\u0301\u1f69\u0301\u1f68\u0342"),
    (0x1f6f, "\u1f69\u0342α\u0300"), (0x1f72, "ε\u0300"), (0x1f74, "η\u0300"), (0x1f76, "ι\u0300"),
    (0x1f78, "ο\u0300"), (0x1f7a, "υ\u0300"), (0x1f7c, "ω\u0300"),
    (0x1f80, "\u1f00\u0345\u1f01\u0345\u1f02\u0345\u1f03\u0345\u1f04\u0345\u1f05\u0345\u1f06\u0345\u1f07\u0345"),
    (0x1f88, "\u1f08\u0345\u1f09\u0345\u1f0a\u0345\u1f0b\u0345\u1f0c\u0345\u1f0d\u0345\u1f0e\u0345\u1f0f\u0345"),
    (0x1f90, "\u1f20\u0345\u1f21\u0345\u1f22\u0345\u1f23\u0345\u1f24\u0345\u1f25\u0345\u1f26\u0345\u1f27\u0345"),
    (0x1f98, "\u1f28\u0345\u1f29\u0345\u1f2a\u0345\u1f2b\u0345\u1f2c\u0345\u1f2d\u0345\u1f2e\u0345\u1f2f\u0345"),
    (0x1fa0, "\u1f60\u0345\u1f61\u0345\u1f62\u0345\u1f63\u0345\u1f64\u0345\u1f65\u0345\u1f66\u0345\u1f67\u0345"),
    (0x1fa8, "\u1f68\u0345\u1f69\u0345\u1f6a\u0345\u1f6b\u0345\u1f6c\u0345\u1f6d\u0345\u1f6e\u0345\u1f6f\u0345"),
    (0x1fb0, "α\u0306α\u0304\u1f70\u0345α\u0345\u03ac\u0345"), (0x1fb6, "α\u0342\u1fb6\u0345Α\u0306Α\u0304Α\u0300"),
    (0x1fbc, "Α\u0345"), (0x1fc1, "\u00a8\u0342\u1f74\u0345η\u0345\u03ae\u0345"),
    (0x1fc6, "η\u0342\u1fc6\u0345Ε\u0300"), (0x1fca, "Η\u0300"),
    (0x1fcc, "Η\u0345\u1fbf\u0300\u1fbf\u0301\u1fbf\u0342ι\u0306ι\u0304\u03ca\u0300"),
    (0x1fd6, "ι\u0342\u03ca\u0342Ι\u0306Ι\u0304Ι\u0300"),
    (0x1fdd, "\u1ffe\u0300\u1ffe\u0301\u1ffe\u0342υ\u0306υ\u0304\u03cb\u0300"),
    (0x1fe4, "ρ\u0313ρ\u0314υ\u0342\u03cb\u0342Υ\u0306Υ\u0304Υ\u0300"), (0x1fec, "Ρ\u0314\u00a8\u0300"),
    (0x1ff2, "\u1f7c\u0345ω\u0345\u03ce\u0345"), (0x1ff6, "ω\u0342\u1ff6\u0345Ο\u0300"), (0x1ffa, "Ω\u0300"),
    (0x1ffc, "Ω\u0345"), (0x219a, "←\u0338→\u0338"), (0x21ae, "↔\u0338"), (0x21cd, "⇐\u0338⇔\u0338⇒\u0338"),
    (0x2204, "∃\u0338"), (0x2209, "∈\u0338"), (0x220c, "∋\u0338"), (0x2224, "∣\u0338"), (0x2226, "∥\u0338"),
    (0x2241, "∼\u0338"), (0x2244, "≃\u0338"), (0x2247, "≅\u0338"), (0x2249, "≈\u0338"), (0x2260, "=\u0338"),
    (0x2262, "≡\u0338"), (0x226d, "≍\u0338<\u0338>\u0338≤\u0338≥\u0338"), (0x2274, "≲\u0338≳\u0338"),
    (0x2278, "≶\u0338≷\u0338"), (0x2280, "≺\u0338≻\u0338"), (0x2284, "⊂\u0338⊃\u0338"), (0x2288, "⊆\u0338⊇\u0338"),
    (0x22ac, "⊢\u0338⊨\u0338⊩\u0338⊫\u0338"), (0x22e0, "≼\u0338≽\u0338⊑\u0338⊒\u0338"),
    (0x22ea, "⊲\u0338⊳\u0338⊴\u0338⊵\u0338"), (0x304c, "か\u3099"), (0x304e, "き\u3099"), (0x3050, "く\u3099"),
    (0x3052, "け\u3099"), (0x3054, "こ\u3099"), (0x3056, "さ\u3099"), (0x3058, "し\u3099"), (0x305a, "す\u3099"),
    (0x305c, "せ\u3099"), (0x305e, "そ\u3099"), (0x3060, "た\u3099"), (0x3062, "ち\u3099"), (0x3065, "つ\u3099"),
    (0x3067, "て\u3099"), (0x3069, "と\u3099"), (0x3070, "は\u3099は\u309a"), (0x3073, "ひ\u3099ひ\u309a"),
    (0x3076, "ふ\u3099ふ\u309a"), (0x3079, "へ\u3099へ\u309a"), (0x307c, "ほ\u3099ほ\u309a"), (0x3094, "う\u3099"),
    (0x309e, "\u309d\u3099"), (0x30ac, "カ\u3099"), (0x30ae, "キ\u3099"), (0x30b0, "ク\u3099"), (0x30b2, "ケ\u3099"),
    (0x30b4, "コ\u3099"), (0x30b6, "サ\u3099"), (0x30b8, "シ\u3099"), (0x30ba, "ス\u3099"), (0x30bc, "セ\u3099"),
    (0x30be, "ソ\u3099"), (0x30c0, "タ\u3099"), (0x30c2, "チ\u3099"), (0x30c5, "ツ\u3099"), (0x30c7, "テ\u3099"),
    (0x30c9, "ト\u3099"), (0x30d0, "ハ\u3099ハ\u309a"), (0x30d3, "ヒ\u3099ヒ\u309a"), (0x30d6, "フ\u3099フ\u309a"),
    (0x30d9, "ヘ\u3099ヘ\u309a"), (0x30dc, "ホ\u3099ホ\u309a"), (0x30f4, "ウ\u3099"),
    (0x30f7, "ワ\u3099ヰ\u3099ヱ\u3099ヲ\u3099"), (0x30fe, "\u30fd\u3099"), (0x105c9, "𐗒\u0307"), (0x105e4, "𐗚\u0307"),
    (0x1109a, "𑂚"), (0x1109c, "𑂜"), (0x110ab, "𑂫"), (0x1112e, "𑄮𑄯"), (0x1134b, "𑍋𑍌"), (0x11383, "𑎃"),
    (0x11385, "𑎅"), (0x1138e, "𑎎"), (0x11391, "𑎑"), (0x113c5, "𑏅"), (0x113c7, "𑏇𑏈"), (0x114bb, "𑒻𑒼"),
    (0x114be, "𑒾"), (0x115ba, "𑖺𑖻"), (0x11938, "𑤸"), (0x16121, "𖄡𖄢𖄣𖄤𖄥𖄦𖄧𖄨"), (0x16d68, "𖵨𖵩𖵪")]

-- Characters whose two parts stay apart.
def dividedRows : Rows := [
    (0x344, "\u0308\u0301"), (0x958, "क\u093cख\u093cग\u093cज\u093cड\u093cढ\u093cफ\u093cय\u093c"),
    (0x9dc, "ড\u09bcঢ\u09bc"), (0x9df, "য\u09bc"), (0xa33, "ਲ\u0a3c"), (0xa36, "ਸ\u0a3c"),
    (0xa59, "ਖ\u0a3cਗ\u0a3cਜ\u0a3c"), (0xa5e, "ਫ\u0a3c"), (0xb5c, "ଡ\u0b3cଢ\u0b3c"), (0xf43, "ག\u0fb7"),
    (0xf4d, "ཌ\u0fb7"), (0xf52, "ད\u0fb7"), (0xf57, "བ\u0fb7"), (0xf5c, "ཛ\u0fb7"), (0xf69, "ཀ\u0fb5"),
    (0xf73, "\u0f71\u0f72"), (0xf75, "\u0f71\u0f74\u0fb2\u0f80"), (0xf78, "\u0fb3\u0f80"), (0xf81, "\u0f71\u0f80"),
    (0xf93, "\u0f92\u0fb7"), (0xf9d, "\u0f9c\u0fb7"), (0xfa2, "\u0fa1\u0fb7"), (0xfa7, "\u0fa6\u0fb7"),
    (0xfac, "\u0fab\u0fb7"), (0xfb9, "\u0f90\u0fb5"), (0x2adc, "⫝\u0338"), (0xfb1d, "\u05d9\u05b4"),
    (0xfb1f, "\u05f2\u05b7"),
    (0xfb2a, "\u05e9\u05c1\u05e9\u05c2\ufb49\u05c1\ufb49\u05c2\u05d0\u05b7\u05d0\u05b8\u05d0\u05bc\u05d1\u05bc"),
    (0xfb32, "\u05d2\u05bc\u05d3\u05bc\u05d4\u05bc\u05d5\u05bc\u05d6\u05bc"),
    (0xfb38, "\u05d8\u05bc\u05d9\u05bc\u05da\u05bc\u05db\u05bc\u05dc\u05bc"), (0xfb3e, "\u05de\u05bc"),
    (0xfb40, "\u05e0\u05bc\u05e1\u05bc"), (0xfb43, "\u05e3\u05bc\u05e4\u05bc"),
    (0xfb46, "\u05e6\u05bc\u05e7\u05bc\u05e8\u05bc\u05e9\u05bc\u05ea\u05bc\u05d5\u05b9\u05d1\u05bf\u05db\u05bf"),
    (0xfb4e, "\u05e4\u05bf"), (0x1d15e, "𝅗𝅥𝅘𝅥𝅘𝅥𝅮𝅘𝅥𝅯𝅘𝅥𝅰𝅘𝅥𝅱𝅘𝅥𝅲"), (0x1d1bb, "𝆹𝅥𝆺𝅥𝆹𝅥𝅮𝆺𝅥𝅮𝆹𝅥𝅯𝆺𝅥𝅯")]

-- Characters that are another one under an older name.
def renamedRows : Rows := [
    (0x340, "\u0300\u0301"), (0x343, "\u0313"), (0x374, "\u02b9"), (0x37e, ";"), (0x387, "\u00b7"),
    (0x1f71, "\u03ac"), (0x1f73, "\u03ad"), (0x1f75, "\u03ae"), (0x1f77, "\u03af"), (0x1f79, "\u03cc"),
    (0x1f7b, "\u03cd"), (0x1f7d, "\u03ce"), (0x1fbb, "\u0386"), (0x1fbe, "ι"), (0x1fc9, "\u0388"),
    (0x1fcb, "\u0389"), (0x1fd3, "\u0390"), (0x1fdb, "\u038a"), (0x1fe3, "\u03b0"), (0x1feb, "\u038e"),
    (0x1fee, "\u0385\x60"), (0x1ff9, "\u038c"), (0x1ffb, "\u038f"), (0x1ffd, "\u00b4"), (0x2000, "\u2002\u2003"),
    (0x2126, "Ω"), (0x212a, "K\u00c5"), (0x2329, "〈〉"),
    (0xf900, "豈更車賈滑串句龜龜契金喇奈懶癩羅蘿螺裸邏樂洛烙珞落酪駱亂卵欄爛蘭鸞嵐濫藍襤拉臘蠟廊朗浪狼郎來冷勞擄櫓爐盧老蘆虜路露魯鷺碌祿綠菉錄鹿論壟弄籠聾牢磊賂雷壘屢樓淚漏累縷陋勒肋凜凌稜綾菱陵讀拏樂諾丹寧"),
    (0xf960, "怒率異北磻便復不泌數索參塞省葉說殺辰沈拾若掠略亮兩凉梁糧良諒量勵呂女廬旅濾礪閭驪麗黎力曆歷轢年憐戀撚漣煉璉秊練聯輦蓮連鍊列劣咽烈裂說廉念捻殮簾獵令囹寧嶺怜玲瑩羚聆鈴零靈領例禮醴隸惡了僚寮尿料樂"),
    (0xf9c0, "燎療蓼遼龍暈阮劉杻柳流溜琉留硫紐類六戮陸倫崙淪輪律慄栗率隆利吏履易李梨泥理痢罹裏裡里離匿溺吝燐璘藺隣鱗麟林淋臨立笠粒狀炙識什茶刺切度拓糖宅洞暴輻行降見廓兀嗀"), (0xfa10, "塚"),
    (0xfa12, "晴"), (0xfa15, "凞猪益礼神祥福靖精羽"), (0xfa20, "蘒"), (0xfa22, "諸"), (0xfa25, "逸都"),
    (0xfa2a, "飯飼館鶴郞隷侮僧免勉勤卑喝嘆器塀墨層屮悔慨憎懲敏既暑梅海渚漢煮爫琢碑社祉祈祐祖祝禍禎穀突節練縉繁署者臭艹艹著褐視謁謹賓贈辶逸難響頻恵𤋮舘"),
    (0xfa70, "並况全侀充冀勇勺喝啕喙嗢塚墳奄奔婢嬨廒廙彩徭惘慎愈憎慠懲戴揄搜摒敖晴朗望杖歹殺流滛滋漢瀞煮瞧爵犯猪瑱甆画瘝瘟益盛直睊着磌窱節类絛練缾者荒華蝹襁覆視調諸請謁諾諭謹變贈輸遲醙鉶陼難靖韛響頋頻鬒龜𢡊"),
    (0xfad0, "𢡄𣏕㮝䀘䀹𥉉𥳐𧻓齃龎"),
    (0x2f800, "丽丸乁𠄢你侮侻倂偺備僧像㒞𠘺免兔兤具𠔜㒹內再𠕋冗冤仌冬况𩇟凵刃㓟刻剆割剷㔕勇勉勤勺包匆北卉卑博即卽卿卿卿𠨬灰及叟𠭣叫叱吆咞吸呈周咢哶唐啓啣善善喙喫喳嗂圖嘆圗噑噴切壮城埴堍型堲報墬𡓤売壷夆多夢奢"),
    (0x2f860, "𡚨𡛪姬娛娧姘婦㛮㛼嬈嬾嬾𡧈寃寘寧寳𡬘寿将当尢㞁屠屮峀岍𡷤嵃𡷦嵮嵫嵼巡巢㠯巽帨帽幩㡢𢆃㡼庰庳庶廊𪎒廾𢌱𢌱舁弢弢㣇𣊸𦇚形彫㣣徚忍志忹悁㤺㤜悔𢛔惇慈慌慎慌慺憎憲憤憯懞懲懶成戛扝抱拔捐𢬌挽拼捨掃揤𢯱搢"),
    (0x2f8c0, "揅掩㨮摩摾撝摷㩬敏敬𣀊旣書晉㬙暑㬈㫤冒冕最暜肭䏙朗望朡杞杓𣏃㭉柺枅桒梅𣑭梎栟椔㮝楂榣槪檨𣚣櫛㰘次𣢧歔㱎歲殟殺殻𣪍𡴋𣫺汎𣲼沿泍汧洖派海流浩浸涅𣴞洴港湮㴳滋滇𣻑淹潮𣽞𣾎濆瀹瀞瀛㶖灊災灷炭𠔥煅𤉣熜𤎫"),
    (0x2f920, "爨爵牐𤘈犀犕𤜵𤠔獺王㺬玥㺸㺸瑇瑜瑱璅瓊㼛甤𤰶甾𤲒異𢆟瘐𤾡𤾸𥁄㿼䀈直𥃳𥃲𥄙𥄳眞真真睊䀹瞋䁆䂖𥐝硎碌磌䃣𥘦祖𥚚𥛅福秫䄯穀穊穏𥥼𥪧𥪧竮䈂𥮫篆築䈧𥲀糒䊠糨糣紀𥾆絣䌁緇縂繅䌴𦈨𦉇䍙𦋙罺𦌾羕翺者𦓚𦔣聠𦖨聰"),
    (0x2f980, "𣍟䏕育脃䐋脾媵𦞧𦞵𣎓𣎜舁舄辞䑫芑芋芝劳花芳芽苦𦬼若茝荣莭茣莽菧著荓菊菌菜𦰶𦵫𦳕䔫蓱蓳蔖𧏊蕤𦼬䕝䕡𦾱𧃒䕫虐虜虧虩蚩蚈蜎蛢蝹蜨蝫螆䗗蟡蠁䗹衠衣𧙧裗裞䘵裺㒻𧢮𧥦䚾䛇誠諭變豕𧲨貫賁贛起𧼯𠠄跋趼跰𠣞軔輸"),
    (0x2f9e0, "𨗒𨗭邔郱鄑𨜮鄛鈸鋗鋘鉼鏹鐕𨯺開䦕閷𨵷䧦雃嶲霣𩅅𩈚䩮䩶韠𩐊䪲𩒖頋頋頩𩖶飢䬳餩馧駂駾䯎𩬰鬒鱀鳽䳎䳭鵧𪃎䳸𪄅𪈎𪊑麻䵖黹黾鼅鼏鼖鼻𪘀")]

/-! Syllables of Hangul have no rows: they are numbered by their leading, middle and trailing letters. -/

def firstSyllable : Nat := 0xac00
def firstLeading : Nat := 0x1100
def firstMiddle : Nat := 0x1161

-- The code point before that of the first trailing letter, as a syllable may have none.
def noTrailing : Nat := 0x11a7

def leadingCount : Nat := 19
def middleCount : Nat := 21
def trailingCount : Nat := 28

def isSyllable (n : Nat) : Bool :=
  firstSyllable ≤ n && n < firstSyllable + leadingCount * middleCount * trailingCount

-- A syllable is one without trailing letter and that letter, or a leading and a middle letter.
def syllableParts (n : Nat) : List Char :=
  let index := n - firstSyllable
  let trailing := index % trailingCount
  if trailing = 0 then
    [Char.ofNat (firstLeading + index / trailingCount / middleCount),
      Char.ofNat (firstMiddle + index / trailingCount % middleCount)]
  else [Char.ofNat (n - trailing), Char.ofNat (noTrailing + trailing)]

def syllable? (a b : Nat) : Option Char :=
  if firstLeading ≤ a && a < firstLeading + leadingCount && firstMiddle ≤ b && b < firstMiddle + middleCount then
    some (Char.ofNat (firstSyllable + ((a - firstLeading) * middleCount + (b - firstMiddle)) * trailingCount))
  else if isSyllable a && (a - firstSyllable) % trailingCount = 0 && noTrailing < b &&
      b < noTrailing + trailingCount then
    some (Char.ofNat (a + (b - noTrailing)))
  else none

-- What a character is made of, one step deep.
def decomposition? (c : Char) : Option (List Char) :=
  if isSyllable c.toNat then some (syllableParts c.toNat)
  else (pairRows.letters? 2 c) <|> (dividedRows.letters? 2 c) <|> (renamedRows.letters? 1 c)

def pairPlace? (a b : Char) : List Char → Option Nat
  | x :: y :: rest => if x = a && y = b then some 0 else (pairPlace? a b rest).map (· + 1)
  | _ => none

def composition? (a b : Char) : Option Char :=
  match syllable? a.toNat b.toNat with
  | some c => some c
  | none => pairRows.findSome? fun row => (pairPlace? a b row.2.toList).map fun place => Char.ofNat (row.1 + place)

end GridLoad.Text
