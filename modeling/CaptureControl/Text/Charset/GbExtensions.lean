import CaptureControl.Text.Charset.Grid

/-!
# The extensions of GB 2312

Runs of consecutive characters: the symbols of GBK, what GB 18030 adds to them in two octets, and
its characters of four octets below U+10000.
-/

namespace CaptureControl.Text.Charset

/-- The symbols and compatibility ideographs of GBK that GB 2312 lacks or has otherwise. -/
def gbkSymbols : List Run :=
  [
    ⟨0xA1A4, 0xA1A4, 0xB7⟩, ⟨0xA1AA, 0xA1AA, 0x2014⟩, ⟨0xA2A1, 0xA2AA, 0x2170⟩,
    ⟨0xA6E0, 0xA6E1, 0xFE35⟩, ⟨0xA6E2, 0xA6E3, 0xFE39⟩, ⟨0xA6E4, 0xA6E5, 0xFE3F⟩,
    ⟨0xA6E6, 0xA6E7, 0xFE3D⟩, ⟨0xA6E8, 0xA6EB, 0xFE41⟩, ⟨0xA6EE, 0xA6EF, 0xFE3B⟩,
    ⟨0xA6F0, 0xA6F1, 0xFE37⟩, ⟨0xA6F2, 0xA6F2, 0xFE31⟩, ⟨0xA6F4, 0xA6F5, 0xFE33⟩,
    ⟨0xA840, 0xA841, 0x2CA⟩, ⟨0xA842, 0xA842, 0x2D9⟩, ⟨0xA843, 0xA843, 0x2013⟩,
    ⟨0xA844, 0xA844, 0x2015⟩, ⟨0xA845, 0xA845, 0x2025⟩, ⟨0xA846, 0xA846, 0x2035⟩,
    ⟨0xA847, 0xA847, 0x2105⟩, ⟨0xA848, 0xA848, 0x2109⟩, ⟨0xA849, 0xA84C, 0x2196⟩,
    ⟨0xA84D, 0xA84D, 0x2215⟩, ⟨0xA84E, 0xA84E, 0x221F⟩, ⟨0xA84F, 0xA84F, 0x2223⟩,
    ⟨0xA850, 0xA850, 0x2252⟩, ⟨0xA851, 0xA852, 0x2266⟩, ⟨0xA853, 0xA853, 0x22BF⟩,
    ⟨0xA854, 0xA877, 0x2550⟩, ⟨0xA878, 0xA87E, 0x2581⟩, ⟨0xA880, 0xA887, 0x2588⟩,
    ⟨0xA888, 0xA88A, 0x2593⟩, ⟨0xA88B, 0xA88C, 0x25BC⟩, ⟨0xA88D, 0xA890, 0x25E2⟩,
    ⟨0xA891, 0xA891, 0x2609⟩, ⟨0xA892, 0xA892, 0x2295⟩, ⟨0xA893, 0xA893, 0x3012⟩,
    ⟨0xA894, 0xA895, 0x301D⟩, ⟨0xA8BB, 0xA8BB, 0x251⟩, ⟨0xA8BD, 0xA8BD, 0x144⟩,
    ⟨0xA8BE, 0xA8BE, 0x148⟩, ⟨0xA8C0, 0xA8C0, 0x261⟩, ⟨0xA940, 0xA948, 0x3021⟩,
    ⟨0xA949, 0xA949, 0x32A3⟩, ⟨0xA94A, 0xA94B, 0x338E⟩, ⟨0xA94C, 0xA94E, 0x339C⟩,
    ⟨0xA94F, 0xA94F, 0x33A1⟩, ⟨0xA950, 0xA950, 0x33C4⟩, ⟨0xA951, 0xA951, 0x33CE⟩,
    ⟨0xA952, 0xA953, 0x33D1⟩, ⟨0xA954, 0xA954, 0x33D5⟩, ⟨0xA955, 0xA955, 0xFE30⟩,
    ⟨0xA956, 0xA956, 0xFFE2⟩, ⟨0xA957, 0xA957, 0xFFE4⟩, ⟨0xA959, 0xA959, 0x2121⟩,
    ⟨0xA95A, 0xA95A, 0x3231⟩, ⟨0xA95C, 0xA95C, 0x2010⟩, ⟨0xA960, 0xA960, 0x30FC⟩,
    ⟨0xA961, 0xA962, 0x309B⟩, ⟨0xA963, 0xA964, 0x30FD⟩, ⟨0xA965, 0xA965, 0x3006⟩,
    ⟨0xA966, 0xA967, 0x309D⟩, ⟨0xA968, 0xA971, 0xFE49⟩, ⟨0xA972, 0xA975, 0xFE54⟩,
    ⟨0xA976, 0xA97E, 0xFE59⟩, ⟨0xA980, 0xA984, 0xFE62⟩, ⟨0xA985, 0xA988, 0xFE68⟩,
    ⟨0xA996, 0xA996, 0x3007⟩, ⟨0xFD9C, 0xFD9C, 0xF92C⟩, ⟨0xFD9D, 0xFD9D, 0xF979⟩,
    ⟨0xFD9E, 0xFD9E, 0xF995⟩, ⟨0xFD9F, 0xFD9F, 0xF9E7⟩, ⟨0xFDA0, 0xFDA0, 0xF9F1⟩,
    ⟨0xFE40, 0xFE43, 0xFA0C⟩, ⟨0xFE44, 0xFE44, 0xFA11⟩, ⟨0xFE45, 0xFE46, 0xFA13⟩,
    ⟨0xFE47, 0xFE47, 0xFA18⟩, ⟨0xFE48, 0xFE4A, 0xFA1F⟩, ⟨0xFE4B, 0xFE4C, 0xFA23⟩,
    ⟨0xFE4D, 0xFE4F, 0xFA27⟩]

/-- The characters that GB 18030 adds in two octets, most of them for private use. -/
def gb18030Pairs : List Run :=
  [
    ⟨0xA140, 0xA17E, 0xE4C6⟩, ⟨0xA180, 0xA1A0, 0xE505⟩, ⟨0xA240, 0xA27E, 0xE526⟩,
    ⟨0xA280, 0xA2A0, 0xE565⟩, ⟨0xA2AB, 0xA2B0, 0xE766⟩, ⟨0xA2E3, 0xA2E3, 0x20AC⟩,
    ⟨0xA2E4, 0xA2E4, 0xE76D⟩, ⟨0xA2EF, 0xA2F0, 0xE76E⟩, ⟨0xA2FD, 0xA2FE, 0xE770⟩,
    ⟨0xA340, 0xA37E, 0xE586⟩, ⟨0xA380, 0xA3A0, 0xE5C5⟩, ⟨0xA440, 0xA47E, 0xE5E6⟩,
    ⟨0xA480, 0xA4A0, 0xE625⟩, ⟨0xA4F4, 0xA4FE, 0xE772⟩, ⟨0xA540, 0xA57E, 0xE646⟩,
    ⟨0xA580, 0xA5A0, 0xE685⟩, ⟨0xA5F7, 0xA5FE, 0xE77D⟩, ⟨0xA640, 0xA67E, 0xE6A6⟩,
    ⟨0xA680, 0xA6A0, 0xE6E5⟩, ⟨0xA6B9, 0xA6C0, 0xE785⟩, ⟨0xA6D9, 0xA6DF, 0xE78D⟩,
    ⟨0xA6EC, 0xA6ED, 0xE794⟩, ⟨0xA6F3, 0xA6F3, 0xE796⟩, ⟨0xA6F6, 0xA6FE, 0xE797⟩,
    ⟨0xA740, 0xA77E, 0xE706⟩, ⟨0xA780, 0xA7A0, 0xE745⟩, ⟨0xA7C2, 0xA7D0, 0xE7A0⟩,
    ⟨0xA7F2, 0xA7FE, 0xE7AF⟩, ⟨0xA896, 0xA8A0, 0xE7BC⟩, ⟨0xA8BC, 0xA8BC, 0xE7C7⟩,
    ⟨0xA8BF, 0xA8BF, 0x1F9⟩, ⟨0xA8C1, 0xA8C4, 0xE7C9⟩, ⟨0xA8EA, 0xA8FE, 0xE7CD⟩,
    ⟨0xA958, 0xA958, 0xE7E2⟩, ⟨0xA95B, 0xA95B, 0xE7E3⟩, ⟨0xA95D, 0xA95F, 0xE7E4⟩,
    ⟨0xA989, 0xA989, 0x303E⟩, ⟨0xA98A, 0xA995, 0x2FF0⟩, ⟨0xA997, 0xA9A3, 0xE7F4⟩,
    ⟨0xA9F0, 0xA9FE, 0xE801⟩, ⟨0xAAA1, 0xAAFE, 0xE000⟩, ⟨0xABA1, 0xABFE, 0xE05E⟩,
    ⟨0xACA1, 0xACFE, 0xE0BC⟩, ⟨0xADA1, 0xADFE, 0xE11A⟩, ⟨0xAEA1, 0xAEFE, 0xE178⟩,
    ⟨0xAFA1, 0xAFFE, 0xE1D6⟩, ⟨0xD7FA, 0xD7FE, 0xE810⟩, ⟨0xF8A1, 0xF8FE, 0xE234⟩,
    ⟨0xF9A1, 0xF9FE, 0xE292⟩, ⟨0xFAA1, 0xFAFE, 0xE2F0⟩, ⟨0xFBA1, 0xFBFE, 0xE34E⟩,
    ⟨0xFCA1, 0xFCFE, 0xE3AC⟩, ⟨0xFDA1, 0xFDFE, 0xE40A⟩, ⟨0xFE50, 0xFE50, 0x2E81⟩,
    ⟨0xFE51, 0xFE53, 0xE816⟩, ⟨0xFE54, 0xFE54, 0x2E84⟩, ⟨0xFE55, 0xFE55, 0x3473⟩,
    ⟨0xFE56, 0xFE56, 0x3447⟩, ⟨0xFE57, 0xFE57, 0x2E88⟩, ⟨0xFE58, 0xFE58, 0x2E8B⟩,
    ⟨0xFE59, 0xFE59, 0xE81E⟩, ⟨0xFE5A, 0xFE5A, 0x359E⟩, ⟨0xFE5B, 0xFE5B, 0x361A⟩,
    ⟨0xFE5C, 0xFE5C, 0x360E⟩, ⟨0xFE5D, 0xFE5D, 0x2E8C⟩, ⟨0xFE5E, 0xFE5E, 0x2E97⟩,
    ⟨0xFE5F, 0xFE5F, 0x396E⟩, ⟨0xFE60, 0xFE60, 0x3918⟩, ⟨0xFE61, 0xFE61, 0xE826⟩,
    ⟨0xFE62, 0xFE62, 0x39CF⟩, ⟨0xFE63, 0xFE63, 0x39DF⟩, ⟨0xFE64, 0xFE64, 0x3A73⟩,
    ⟨0xFE65, 0xFE65, 0x39D0⟩, ⟨0xFE66, 0xFE67, 0xE82B⟩, ⟨0xFE68, 0xFE68, 0x3B4E⟩,
    ⟨0xFE69, 0xFE69, 0x3C6E⟩, ⟨0xFE6A, 0xFE6A, 0x3CE0⟩, ⟨0xFE6B, 0xFE6B, 0x2EA7⟩,
    ⟨0xFE6C, 0xFE6D, 0xE831⟩, ⟨0xFE6E, 0xFE6E, 0x2EAA⟩, ⟨0xFE6F, 0xFE6F, 0x4056⟩,
    ⟨0xFE70, 0xFE70, 0x415F⟩, ⟨0xFE71, 0xFE71, 0x2EAE⟩, ⟨0xFE72, 0xFE72, 0x4337⟩,
    ⟨0xFE73, 0xFE73, 0x2EB3⟩, ⟨0xFE74, 0xFE75, 0x2EB6⟩, ⟨0xFE76, 0xFE76, 0xE83B⟩,
    ⟨0xFE77, 0xFE77, 0x43B1⟩, ⟨0xFE78, 0xFE78, 0x43AC⟩, ⟨0xFE79, 0xFE79, 0x2EBB⟩,
    ⟨0xFE7A, 0xFE7A, 0x43DD⟩, ⟨0xFE7B, 0xFE7B, 0x44D6⟩, ⟨0xFE7C, 0xFE7C, 0x4661⟩,
    ⟨0xFE7D, 0xFE7D, 0x464C⟩, ⟨0xFE7E, 0xFE7E, 0xE843⟩, ⟨0xFE80, 0xFE80, 0x4723⟩,
    ⟨0xFE81, 0xFE81, 0x4729⟩, ⟨0xFE82, 0xFE82, 0x477C⟩, ⟨0xFE83, 0xFE83, 0x478D⟩,
    ⟨0xFE84, 0xFE84, 0x2ECA⟩, ⟨0xFE85, 0xFE85, 0x4947⟩, ⟨0xFE86, 0xFE86, 0x497A⟩,
    ⟨0xFE87, 0xFE87, 0x497D⟩, ⟨0xFE88, 0xFE89, 0x4982⟩, ⟨0xFE8A, 0xFE8B, 0x4985⟩,
    ⟨0xFE8C, 0xFE8C, 0x499F⟩, ⟨0xFE8D, 0xFE8D, 0x499B⟩, ⟨0xFE8E, 0xFE8E, 0x49B7⟩,
    ⟨0xFE8F, 0xFE8F, 0x49B6⟩, ⟨0xFE90, 0xFE91, 0xE854⟩, ⟨0xFE92, 0xFE92, 0x4CA3⟩,
    ⟨0xFE93, 0xFE95, 0x4C9F⟩, ⟨0xFE96, 0xFE96, 0x4C77⟩, ⟨0xFE97, 0xFE97, 0x4CA2⟩,
    ⟨0xFE98, 0xFE9E, 0x4D13⟩, ⟨0xFE9F, 0xFE9F, 0x4DAE⟩, ⟨0xFEA0, 0xFEA0, 0xE864⟩,
    ⟨0xFEA1, 0xFEFE, 0xE468⟩]

/-- The characters of four octets below U+10000, by their number in order of the octets. -/
def gb18030Quads : List Run :=
  [
    ⟨0x0, 0x23, 0x80⟩, ⟨0x24, 0x25, 0xA5⟩, ⟨0x26, 0x2C, 0xA9⟩, ⟨0x2D, 0x31, 0xB2⟩,
    ⟨0x32, 0x50, 0xB8⟩, ⟨0x51, 0x58, 0xD8⟩, ⟨0x59, 0x5E, 0xE2⟩, ⟨0x5F, 0x5F, 0xEB⟩,
    ⟨0x60, 0x63, 0xEE⟩, ⟨0x64, 0x66, 0xF4⟩, ⟨0x67, 0x67, 0xF8⟩, ⟨0x68, 0x68, 0xFB⟩,
    ⟨0x69, 0x6C, 0xFD⟩, ⟨0x6D, 0x7D, 0x102⟩, ⟨0x7E, 0x84, 0x114⟩, ⟨0x85, 0x93, 0x11C⟩,
    ⟨0x94, 0xAB, 0x12C⟩, ⟨0xAC, 0xAE, 0x145⟩, ⟨0xAF, 0xB2, 0x149⟩, ⟨0xB3, 0xCF, 0x14E⟩,
    ⟨0xD0, 0x131, 0x16C⟩, ⟨0x132, 0x132, 0x1CF⟩, ⟨0x133, 0x133, 0x1D1⟩, ⟨0x134, 0x134, 0x1D3⟩,
    ⟨0x135, 0x135, 0x1D5⟩, ⟨0x136, 0x136, 0x1D7⟩, ⟨0x137, 0x137, 0x1D9⟩, ⟨0x138, 0x138, 0x1DB⟩,
    ⟨0x139, 0x154, 0x1DD⟩, ⟨0x155, 0x1AB, 0x1FA⟩, ⟨0x1AC, 0x1BA, 0x252⟩, ⟨0x1BB, 0x21F, 0x262⟩,
    ⟨0x220, 0x220, 0x2C8⟩, ⟨0x221, 0x22D, 0x2CC⟩, ⟨0x22E, 0x2E4, 0x2DA⟩, ⟨0x2E5, 0x2E5, 0x3A2⟩,
    ⟨0x2E6, 0x2EC, 0x3AA⟩, ⟨0x2ED, 0x2ED, 0x3C2⟩, ⟨0x2EE, 0x324, 0x3CA⟩, ⟨0x325, 0x332, 0x402⟩,
    ⟨0x333, 0x333, 0x450⟩, ⟨0x334, 0x1EF1, 0x452⟩, ⟨0x1EF2, 0x1EF3, 0x2011⟩,
    ⟨0x1EF4, 0x1EF4, 0x2017⟩, ⟨0x1EF5, 0x1EF6, 0x201A⟩, ⟨0x1EF7, 0x1EFD, 0x201E⟩,
    ⟨0x1EFE, 0x1F06, 0x2027⟩, ⟨0x1F07, 0x1F07, 0x2031⟩, ⟨0x1F08, 0x1F08, 0x2034⟩,
    ⟨0x1F09, 0x1F0D, 0x2036⟩, ⟨0x1F0E, 0x1F7D, 0x203C⟩, ⟨0x1F7E, 0x1FD3, 0x20AD⟩,
    ⟨0x1FD4, 0x1FD4, 0x2104⟩, ⟨0x1FD5, 0x1FD7, 0x2106⟩, ⟨0x1FD8, 0x1FE3, 0x210A⟩,
    ⟨0x1FE4, 0x1FED, 0x2117⟩, ⟨0x1FEE, 0x202B, 0x2122⟩, ⟨0x202C, 0x202F, 0x216C⟩,
    ⟨0x2030, 0x2045, 0x217A⟩, ⟨0x2046, 0x2047, 0x2194⟩, ⟨0x2048, 0x20B5, 0x219A⟩,
    ⟨0x20B6, 0x20BB, 0x2209⟩, ⟨0x20BC, 0x20BC, 0x2210⟩, ⟨0x20BD, 0x20BF, 0x2212⟩,
    ⟨0x20C0, 0x20C3, 0x2216⟩, ⟨0x20C4, 0x20C5, 0x221B⟩, ⟨0x20C6, 0x20C7, 0x2221⟩,
    ⟨0x20C8, 0x20C8, 0x2224⟩, ⟨0x20C9, 0x20C9, 0x2226⟩, ⟨0x20CA, 0x20CB, 0x222C⟩,
    ⟨0x20CC, 0x20D0, 0x222F⟩, ⟨0x20D1, 0x20D5, 0x2238⟩, ⟨0x20D6, 0x20DF, 0x223E⟩,
    ⟨0x20E0, 0x20E2, 0x2249⟩, ⟨0x20E3, 0x20E7, 0x224D⟩, ⟨0x20E8, 0x20F4, 0x2253⟩,
    ⟨0x20F5, 0x20F6, 0x2262⟩, ⟨0x20F7, 0x20FC, 0x2268⟩, ⟨0x20FD, 0x2121, 0x2270⟩,
    ⟨0x2122, 0x2124, 0x2296⟩, ⟨0x2125, 0x212F, 0x229A⟩, ⟨0x2130, 0x2148, 0x22A6⟩,
    ⟨0x2149, 0x219A, 0x22C0⟩, ⟨0x219B, 0x22E7, 0x2313⟩, ⟨0x22E8, 0x22F1, 0x246A⟩,
    ⟨0x22F2, 0x2355, 0x249C⟩, ⟨0x2356, 0x2359, 0x254C⟩, ⟨0x235A, 0x2366, 0x2574⟩,
    ⟨0x2367, 0x2369, 0x2590⟩, ⟨0x236A, 0x2373, 0x2596⟩, ⟨0x2374, 0x2383, 0x25A2⟩,
    ⟨0x2384, 0x238B, 0x25B4⟩, ⟨0x238C, 0x2393, 0x25BE⟩, ⟨0x2394, 0x2396, 0x25C8⟩,
    ⟨0x2397, 0x2398, 0x25CC⟩, ⟨0x2399, 0x23AA, 0x25D0⟩, ⟨0x23AB, 0x23C9, 0x25E6⟩,
    ⟨0x23CA, 0x23CB, 0x2607⟩, ⟨0x23CC, 0x2401, 0x260A⟩, ⟨0x2402, 0x2402, 0x2641⟩,
    ⟨0x2403, 0x2C40, 0x2643⟩, ⟨0x2C41, 0x2C42, 0x2E82⟩, ⟨0x2C43, 0x2C45, 0x2E85⟩,
    ⟨0x2C46, 0x2C47, 0x2E89⟩, ⟨0x2C48, 0x2C51, 0x2E8D⟩, ⟨0x2C52, 0x2C60, 0x2E98⟩,
    ⟨0x2C61, 0x2C62, 0x2EA8⟩, ⟨0x2C63, 0x2C65, 0x2EAB⟩, ⟨0x2C66, 0x2C69, 0x2EAF⟩,
    ⟨0x2C6A, 0x2C6B, 0x2EB4⟩, ⟨0x2C6C, 0x2C6E, 0x2EB8⟩, ⟨0x2C6F, 0x2C7C, 0x2EBC⟩,
    ⟨0x2C7D, 0x2DA1, 0x2ECB⟩, ⟨0x2DA2, 0x2DA5, 0x2FFC⟩, ⟨0x2DA6, 0x2DA6, 0x3004⟩,
    ⟨0x2DA7, 0x2DAB, 0x3018⟩, ⟨0x2DAC, 0x2DAD, 0x301F⟩, ⟨0x2DAE, 0x2DC1, 0x302A⟩,
    ⟨0x2DC2, 0x2DC3, 0x303F⟩, ⟨0x2DC4, 0x2DCA, 0x3094⟩, ⟨0x2DCB, 0x2DCC, 0x309F⟩,
    ⟨0x2DCD, 0x2DD1, 0x30F7⟩, ⟨0x2DD2, 0x2DD7, 0x30FF⟩, ⟨0x2DD8, 0x2ECD, 0x312A⟩,
    ⟨0x2ECE, 0x2ED4, 0x322A⟩, ⟨0x2ED5, 0x2F45, 0x3232⟩, ⟨0x2F46, 0x302F, 0x32A4⟩,
    ⟨0x3030, 0x303B, 0x3390⟩, ⟨0x303C, 0x303D, 0x339F⟩, ⟨0x303E, 0x305F, 0x33A2⟩,
    ⟨0x3060, 0x3068, 0x33C5⟩, ⟨0x3069, 0x306A, 0x33CF⟩, ⟨0x306B, 0x306C, 0x33D3⟩,
    ⟨0x306D, 0x30DD, 0x33D6⟩, ⟨0x30DE, 0x3108, 0x3448⟩, ⟨0x3109, 0x3232, 0x3474⟩,
    ⟨0x3233, 0x32A1, 0x359F⟩, ⟨0x32A2, 0x32AC, 0x360F⟩, ⟨0x32AD, 0x35A9, 0x361B⟩,
    ⟨0x35AA, 0x35FE, 0x3919⟩, ⟨0x35FF, 0x365E, 0x396F⟩, ⟨0x365F, 0x366C, 0x39D1⟩,
    ⟨0x366D, 0x36FF, 0x39E0⟩, ⟨0x3700, 0x37D9, 0x3A74⟩, ⟨0x37DA, 0x38F8, 0x3B4F⟩,
    ⟨0x38F9, 0x3969, 0x3C6F⟩, ⟨0x396A, 0x3CDE, 0x3CE1⟩, ⟨0x3CDF, 0x3DE6, 0x4057⟩,
    ⟨0x3DE7, 0x3FBD, 0x4160⟩, ⟨0x3FBE, 0x4031, 0x4338⟩, ⟨0x4032, 0x4035, 0x43AD⟩,
    ⟨0x4036, 0x4060, 0x43B2⟩, ⟨0x4061, 0x4158, 0x43DE⟩, ⟨0x4159, 0x42CD, 0x44D7⟩,
    ⟨0x42CE, 0x42E1, 0x464D⟩, ⟨0x42E2, 0x43A2, 0x4662⟩, ⟨0x43A3, 0x43A7, 0x4724⟩,
    ⟨0x43A8, 0x43F9, 0x472A⟩, ⟨0x43FA, 0x4409, 0x477D⟩, ⟨0x440A, 0x45C2, 0x478E⟩,
    ⟨0x45C3, 0x45F4, 0x4948⟩, ⟨0x45F5, 0x45F6, 0x497B⟩, ⟨0x45F7, 0x45FA, 0x497E⟩,
    ⟨0x45FB, 0x45FB, 0x4984⟩, ⟨0x45FC, 0x460F, 0x4987⟩, ⟨0x4610, 0x4612, 0x499C⟩,
    ⟨0x4613, 0x4628, 0x49A0⟩, ⟨0x4629, 0x48E7, 0x49B8⟩, ⟨0x48E8, 0x490E, 0x4C78⟩,
    ⟨0x490F, 0x497D, 0x4CA4⟩, ⟨0x497E, 0x4A11, 0x4D1A⟩, ⟨0x4A12, 0x4A62, 0x4DAF⟩,
    ⟨0x4A63, 0x82BC, 0x9FA6⟩, ⟨0x82BD, 0x82BD, 0xE76C⟩, ⟨0x82BE, 0x82BE, 0xE7C8⟩,
    ⟨0x82BF, 0x82CB, 0xE7E7⟩, ⟨0x82CC, 0x82CC, 0xE815⟩, ⟨0x82CD, 0x82D1, 0xE819⟩,
    ⟨0x82D2, 0x82D8, 0xE81F⟩, ⟨0x82D9, 0x82DC, 0xE827⟩, ⟨0x82DD, 0x82E0, 0xE82D⟩,
    ⟨0x82E1, 0x82E8, 0xE833⟩, ⟨0x82E9, 0x82EF, 0xE83C⟩, ⟨0x82F0, 0x82FF, 0xE844⟩,
    ⟨0x8300, 0x830D, 0xE856⟩, ⟨0x830E, 0x93D4, 0xE865⟩, ⟨0x93D5, 0x9420, 0xF92D⟩,
    ⟨0x9421, 0x943B, 0xF97A⟩, ⟨0x943C, 0x948C, 0xF996⟩, ⟨0x948D, 0x9495, 0xF9E8⟩,
    ⟨0x9496, 0x94AF, 0xF9F2⟩, ⟨0x94B0, 0x94B0, 0xFA10⟩, ⟨0x94B1, 0x94B1, 0xFA12⟩,
    ⟨0x94B2, 0x94B4, 0xFA15⟩, ⟨0x94B5, 0x94BA, 0xFA19⟩, ⟨0x94BB, 0x94BB, 0xFA22⟩,
    ⟨0x94BC, 0x94BD, 0xFA25⟩, ⟨0x94BE, 0x98C3, 0xFA2A⟩, ⟨0x98C4, 0x98C4, 0xFE32⟩,
    ⟨0x98C5, 0x98C8, 0xFE45⟩, ⟨0x98C9, 0x98C9, 0xFE53⟩, ⟨0x98CA, 0x98CA, 0xFE58⟩,
    ⟨0x98CB, 0x98CB, 0xFE67⟩, ⟨0x98CC, 0x9960, 0xFE6C⟩, ⟨0x9961, 0x99E1, 0xFF5F⟩,
    ⟨0x99E2, 0x99FB, 0xFFE6⟩]

end CaptureControl.Text.Charset
