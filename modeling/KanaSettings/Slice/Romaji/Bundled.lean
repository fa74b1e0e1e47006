/-!
# The bundled romaji table

The rules in force until a person keeps a table of their own.
-/

namespace KanaSettings

/-- A rule that turns romaji into kana. -/
structure RomajiRule where
  input : String
  output : String
  /-- What is left in front of the next letters to be converted. -/
  nextInput : String
deriving DecidableEq

namespace RomajiTable

/-- The rules in force until a person keeps a table of their own. -/
def bundled : List RomajiRule := [
  ⟨"a", "あ", ""⟩, ⟨"i", "い", ""⟩, ⟨"u", "う", ""⟩, ⟨"e", "え", ""⟩, ⟨"o", "お", ""⟩,
  ⟨"ka", "か", ""⟩, ⟨"ki", "き", ""⟩, ⟨"ku", "く", ""⟩, ⟨"ke", "け", ""⟩, ⟨"ko", "こ", ""⟩,
  ⟨"sa", "さ", ""⟩, ⟨"si", "し", ""⟩, ⟨"su", "す", ""⟩, ⟨"se", "せ", ""⟩, ⟨"so", "そ", ""⟩,
  ⟨"ta", "た", ""⟩, ⟨"ti", "ち", ""⟩, ⟨"tu", "つ", ""⟩, ⟨"te", "て", ""⟩, ⟨"to", "と", ""⟩,
  ⟨"na", "な", ""⟩, ⟨"ni", "に", ""⟩, ⟨"nu", "ぬ", ""⟩, ⟨"ne", "ね", ""⟩, ⟨"no", "の", ""⟩,
  ⟨"ha", "は", ""⟩, ⟨"hi", "ひ", ""⟩, ⟨"hu", "ふ", ""⟩, ⟨"he", "へ", ""⟩, ⟨"ho", "ほ", ""⟩,
  ⟨"ma", "ま", ""⟩, ⟨"mi", "み", ""⟩, ⟨"mu", "む", ""⟩, ⟨"me", "め", ""⟩, ⟨"mo", "も", ""⟩,
  ⟨"ya", "や", ""⟩, ⟨"yi", "い", ""⟩, ⟨"yu", "ゆ", ""⟩, ⟨"ye", "いぇ", ""⟩, ⟨"yo", "よ", ""⟩,
  ⟨"ra", "ら", ""⟩, ⟨"ri", "り", ""⟩, ⟨"ru", "る", ""⟩, ⟨"re", "れ", ""⟩, ⟨"ro", "ろ", ""⟩,
  ⟨"wa", "わ", ""⟩, ⟨"wi", "うぃ", ""⟩, ⟨"wu", "う", ""⟩, ⟨"we", "うぇ", ""⟩, ⟨"wo", "を", ""⟩,
  ⟨"ga", "が", ""⟩, ⟨"gi", "ぎ", ""⟩, ⟨"gu", "ぐ", ""⟩, ⟨"ge", "げ", ""⟩, ⟨"go", "ご", ""⟩,
  ⟨"za", "ざ", ""⟩, ⟨"zi", "じ", ""⟩, ⟨"zu", "ず", ""⟩, ⟨"ze", "ぜ", ""⟩, ⟨"zo", "ぞ", ""⟩,
  ⟨"da", "だ", ""⟩, ⟨"di", "ぢ", ""⟩, ⟨"du", "づ", ""⟩, ⟨"de", "で", ""⟩, ⟨"do", "ど", ""⟩,
  ⟨"ba", "ば", ""⟩, ⟨"bi", "び", ""⟩, ⟨"bu", "ぶ", ""⟩, ⟨"be", "べ", ""⟩, ⟨"bo", "ぼ", ""⟩,
  ⟨"pa", "ぱ", ""⟩, ⟨"pi", "ぴ", ""⟩, ⟨"pu", "ぷ", ""⟩, ⟨"pe", "ぺ", ""⟩, ⟨"po", "ぽ", ""⟩,
  ⟨"kya", "きゃ", ""⟩, ⟨"kyi", "きぃ", ""⟩, ⟨"kyu", "きゅ", ""⟩, ⟨"kye", "きぇ", ""⟩,
  ⟨"kyo", "きょ", ""⟩, ⟨"sha", "しゃ", ""⟩, ⟨"shi", "し", ""⟩, ⟨"shu", "しゅ", ""⟩, ⟨"she", "しぇ", ""⟩,
  ⟨"sho", "しょ", ""⟩, ⟨"cha", "ちゃ", ""⟩, ⟨"chi", "ち", ""⟩, ⟨"chu", "ちゅ", ""⟩, ⟨"che", "ちぇ", ""⟩,
  ⟨"cho", "ちょ", ""⟩, ⟨"nya", "にゃ", ""⟩, ⟨"nyi", "にぃ", ""⟩, ⟨"nyu", "にゅ", ""⟩,
  ⟨"nye", "にぇ", ""⟩, ⟨"nyo", "にょ", ""⟩, ⟨"hya", "ひゃ", ""⟩, ⟨"hyi", "ひぃ", ""⟩,
  ⟨"hyu", "ひゅ", ""⟩, ⟨"hye", "ひぇ", ""⟩, ⟨"hyo", "ひょ", ""⟩, ⟨"mya", "みゃ", ""⟩,
  ⟨"myi", "みぃ", ""⟩, ⟨"myu", "みゅ", ""⟩, ⟨"mye", "みぇ", ""⟩, ⟨"myo", "みょ", ""⟩,
  ⟨"rya", "りゃ", ""⟩, ⟨"ryi", "りぃ", ""⟩, ⟨"ryu", "りゅ", ""⟩, ⟨"rye", "りぇ", ""⟩,
  ⟨"ryo", "りょ", ""⟩, ⟨"gya", "ぎゃ", ""⟩, ⟨"gyi", "ぎぃ", ""⟩, ⟨"gyu", "ぎゅ", ""⟩,
  ⟨"gye", "ぎぇ", ""⟩, ⟨"gyo", "ぎょ", ""⟩, ⟨"ja", "じゃ", ""⟩, ⟨"ji", "じ", ""⟩, ⟨"ju", "じゅ", ""⟩,
  ⟨"je", "じぇ", ""⟩, ⟨"jo", "じょ", ""⟩, ⟨"bya", "びゃ", ""⟩, ⟨"byi", "びぃ", ""⟩, ⟨"byu", "びゅ", ""⟩,
  ⟨"bye", "びぇ", ""⟩, ⟨"byo", "びょ", ""⟩, ⟨"pya", "ぴゃ", ""⟩, ⟨"pyi", "ぴぃ", ""⟩,
  ⟨"pyu", "ぴゅ", ""⟩, ⟨"pye", "ぴぇ", ""⟩, ⟨"pyo", "ぴょ", ""⟩, ⟨"dya", "ぢゃ", ""⟩,
  ⟨"dyi", "ぢぃ", ""⟩, ⟨"dyu", "ぢゅ", ""⟩, ⟨"dye", "ぢぇ", ""⟩, ⟨"dyo", "ぢょ", ""⟩,
  ⟨"tya", "ちゃ", ""⟩, ⟨"tyi", "ちぃ", ""⟩, ⟨"tyu", "ちゅ", ""⟩, ⟨"tye", "ちぇ", ""⟩,
  ⟨"tyo", "ちょ", ""⟩, ⟨"sya", "しゃ", ""⟩, ⟨"syi", "しぃ", ""⟩, ⟨"syu", "しゅ", ""⟩,
  ⟨"sye", "しぇ", ""⟩, ⟨"syo", "しょ", ""⟩, ⟨"zya", "じゃ", ""⟩, ⟨"zyi", "じぃ", ""⟩,
  ⟨"zyu", "じゅ", ""⟩, ⟨"zye", "じぇ", ""⟩, ⟨"zyo", "じょ", ""⟩, ⟨"jya", "じゃ", ""⟩,
  ⟨"jyi", "じぃ", ""⟩, ⟨"jyu", "じゅ", ""⟩, ⟨"jye", "じぇ", ""⟩, ⟨"jyo", "じょ", ""⟩,
  ⟨"cya", "ちゃ", ""⟩, ⟨"cyi", "ちぃ", ""⟩, ⟨"cyu", "ちゅ", ""⟩, ⟨"cye", "ちぇ", ""⟩,
  ⟨"cyo", "ちょ", ""⟩, ⟨"fa", "ふぁ", ""⟩, ⟨"fi", "ふぃ", ""⟩, ⟨"fu", "ふ", ""⟩, ⟨"fe", "ふぇ", ""⟩,
  ⟨"fo", "ふぉ", ""⟩, ⟨"va", "ゔぁ", ""⟩, ⟨"vi", "ゔぃ", ""⟩, ⟨"vu", "ゔ", ""⟩, ⟨"ve", "ゔぇ", ""⟩,
  ⟨"vo", "ゔぉ", ""⟩, ⟨"tsa", "つぁ", ""⟩, ⟨"tsi", "つぃ", ""⟩, ⟨"tsu", "つ", ""⟩, ⟨"tse", "つぇ", ""⟩,
  ⟨"tso", "つぉ", ""⟩, ⟨"tha", "てゃ", ""⟩, ⟨"thi", "てぃ", ""⟩, ⟨"thu", "てゅ", ""⟩,
  ⟨"the", "てぇ", ""⟩, ⟨"tho", "てょ", ""⟩, ⟨"dha", "でゃ", ""⟩, ⟨"dhi", "でぃ", ""⟩,
  ⟨"dhu", "でゅ", ""⟩, ⟨"dhe", "でぇ", ""⟩, ⟨"dho", "でょ", ""⟩, ⟨"xa", "ぁ", ""⟩, ⟨"xi", "ぃ", ""⟩,
  ⟨"xu", "ぅ", ""⟩, ⟨"xe", "ぇ", ""⟩, ⟨"xo", "ぉ", ""⟩, ⟨"la", "ぁ", ""⟩, ⟨"li", "ぃ", ""⟩,
  ⟨"lu", "ぅ", ""⟩, ⟨"le", "ぇ", ""⟩, ⟨"lo", "ぉ", ""⟩, ⟨"xya", "ゃ", ""⟩, ⟨"xyu", "ゅ", ""⟩,
  ⟨"xyo", "ょ", ""⟩, ⟨"lya", "ゃ", ""⟩, ⟨"lyu", "ゅ", ""⟩, ⟨"lyo", "ょ", ""⟩, ⟨"xtu", "っ", ""⟩,
  ⟨"ltu", "っ", ""⟩, ⟨"xwa", "ゎ", ""⟩, ⟨"lwa", "ゎ", ""⟩, ⟨"xka", "ヵ", ""⟩, ⟨"xke", "ヶ", ""⟩,
  ⟨"nn", "ん", ""⟩, ⟨"n'", "ん", ""⟩, ⟨"xn", "ん", ""⟩, ⟨"-", "ー", ""⟩, ⟨"z-", "〜", ""⟩,
  ⟨"z.", "…", ""⟩, ⟨"z,", "‥", ""⟩, ⟨"z/", "・", ""⟩, ⟨"z[", "『", ""⟩, ⟨"z]", "』", ""⟩,
  ⟨"zh", "←", ""⟩, ⟨"zj", "↓", ""⟩, ⟨"zk", "↑", ""⟩, ⟨"zl", "→", ""⟩, ⟨"kk", "っ", "k"⟩,
  ⟨"ss", "っ", "s"⟩, ⟨"tt", "っ", "t"⟩, ⟨"hh", "っ", "h"⟩, ⟨"mm", "っ", "m"⟩, ⟨"yy", "っ", "y"⟩,
  ⟨"rr", "っ", "r"⟩, ⟨"ww", "っ", "w"⟩, ⟨"gg", "っ", "g"⟩, ⟨"zz", "っ", "z"⟩, ⟨"dd", "っ", "d"⟩,
  ⟨"bb", "っ", "b"⟩, ⟨"pp", "っ", "p"⟩, ⟨"ff", "っ", "f"⟩, ⟨"vv", "っ", "v"⟩, ⟨"jj", "っ", "j"⟩,
  ⟨"cc", "っ", "c"⟩, ⟨"ll", "っ", "l"⟩, ⟨"xx", "っ", "x"⟩, ⟨"qq", "っ", "q"⟩, ⟨"nb", "ん", "b"⟩,
  ⟨"nc", "ん", "c"⟩, ⟨"nd", "ん", "d"⟩, ⟨"nf", "ん", "f"⟩, ⟨"ng", "ん", "g"⟩, ⟨"nh", "ん", "h"⟩,
  ⟨"nj", "ん", "j"⟩, ⟨"nk", "ん", "k"⟩, ⟨"nl", "ん", "l"⟩, ⟨"nm", "ん", "m"⟩, ⟨"np", "ん", "p"⟩,
  ⟨"nq", "ん", "q"⟩, ⟨"nr", "ん", "r"⟩, ⟨"ns", "ん", "s"⟩, ⟨"nt", "ん", "t"⟩, ⟨"nv", "ん", "v"⟩,
  ⟨"nw", "ん", "w"⟩, ⟨"nx", "ん", "x"⟩, ⟨"nz", "ん", "z"⟩]

end RomajiTable

end KanaSettings
