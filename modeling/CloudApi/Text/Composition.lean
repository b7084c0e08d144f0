import CloudApi.Text.CombiningClass

/-! Composed text.

A letter and a mark on it can be one character or two. `composed` takes every character apart,
puts the marks of each letter in the order of their classes, and joins what has a character of its
own, so that texts that look alike become equal. The table holds the small letters and the signs;
a capital is folded before it gets here. Syllables of Hangul are counted and not listed. -/
namespace CloudApi.Text

namespace Composition

/-- For a second part, the first parts it joins, each with the character that they make. -/
def table : List (Nat × String) := [
  (0x300, "aàeèiìnǹoòuùwẁyỳâầêềôồüǜăằēḕōṑơờưừαὰεὲηὴιὶοὸυὺωὼ"),
  (0x300, "ϊῒϋῢеѐиѝἀἂἁἃἐἒἑἓἠἢἡἣἰἲἱἳὀὂὁὃὐὒὑὓὠὢὡὣ"),
  (0x301, "aácćeégǵiíkḱlĺmḿnńoópṕrŕsśuúwẃyýzźâấåǻæǽçḉêếïḯôố"),
  (0x301, "õṍøǿüǘăắēḗōṓũṹơớưứαάεέηήιίοόυύωώϊΐϋΰгѓкќἀἄἁἅἐἔἑἕ"), (0x301, "ἠἤἡἥἰἴἱἵὀὄὁὅὐὔὑὕὠὤὡὥ"),
  (0x302, "aâcĉeêgĝhĥiîjĵoôsŝuûwŵyŷzẑạậẹệọộ"), (0x303, "aãeẽiĩnñoõuũvṽyỹâẫêễôỗăẵơỡưữ"),
  (0x304, "aāeēgḡiīoōuūyȳäǟæǣõȭöȫüǖǫǭȧǡȯȱαᾱιῑυῡиӣуӯḷḹṛṝ"),
  (0x306, "aăeĕgğiĭoŏuŭȩḝαᾰιῐυῠаӑеӗжӂийуўạặ"),
  (0x307, "aȧbḃcċdḋeėfḟgġhḣmṁnṅoȯpṗrṙsṡtṫwẇxẋyẏzżśṥšṧṣṩ𐗒𐗉𐗚𐗤"),
  (0x308, "aäeëhḧiïoötẗuüwẅxẍyÿõṏūṻιϊυϋаӓеёжӝзӟиӥоӧуӱчӵыӹэӭ"), (0x308, "іїәӛөӫ"),
  (0x309, "aảeẻiỉoỏuủyỷâẩêểôổăẳơởưử"), (0x30A, "aåuůwẘyẙ"), (0x30B, "oőuűуӳ"),
  (0x30C, "aǎcčdďeěgǧhȟiǐjǰkǩlľnňoǒrřsštťuǔzžüǚʒǯ"), (0x30F, "aȁeȅiȉoȍrȑuȕѵѷ"),
  (0x311, "aȃeȇiȋoȏrȓuȗ"), (0x313, "αἀεἐηἠιἰοὀρῤυὐωὠ"), (0x314, "αἁεἑηἡιἱοὁρῥυὑωὡ"),
  (0x31B, "oơuư"), (0x323, "aạbḅdḍeẹhḥiịkḳlḷmṃnṇoọrṛsṣtṭuụvṿwẉyỵzẓơợưự"), (0x324, "uṳ"),
  (0x325, "aḁ"), (0x326, "sștț"), (0x327, "cçdḑeȩgģhḩkķlļnņrŗsştţ"), (0x328, "aąeęiįoǫuų"),
  (0x32D, "dḓeḙlḽnṋtṱuṷ"), (0x32E, "hḫ"), (0x330, "eḛiḭuṵ"), (0x331, "bḇdḏhẖkḵlḻnṉrṟtṯzẕ"),
  (0x338, "<≮=≠>≯←↚→↛↔↮⇐⇍⇒⇏⇔⇎∃∄∈∉∋∌∣∤∥∦∼≁≃≄≅≇≈≉≍≭≡≢≤≰≥≱≲≴≳≵"),
  (0x338, "≶≸≷≹≺⊀≻⊁≼⋠≽⋡⊂⊄⊃⊅⊆⊈⊇⊉⊑⋢⊒⋣⊢⊬⊨⊭⊩⊮⊫⊯⊲⋪⊳⋫⊴⋬⊵⋭"),
  (0x342, "αᾶηῆιῖυῦωῶϊῗϋῧἀἆἁἇἠἦἡἧἰἶἱἷὐὖὑὗὠὦὡὧ"), (0x653, "اآ"), (0x654, "اأوؤيئہۂےۓەۀ"),
  (0x655, "اإ"), (0x93C, "नऩरऱळऴ"), (0x9BE, "\u09c7\u09cb"), (0x9D7, "\u09c7\u09cc"),
  (0xB3E, "\u0b47\u0b4b"), (0xB56, "\u0b47\u0b48"), (0xB57, "\u0b47\u0b4c"),
  (0xBBE, "\u0bc6\u0bca\u0bc7\u0bcb"), (0xBD7, "ஒஔ\u0bc6\u0bcc"), (0xC56, "\u0c46\u0c48"),
  (0xCC2, "\u0cc6\u0cca"), (0xCD5, "\u0cbf\u0cc0\u0cc6\u0cc7\u0cca\u0ccb"), (0xCD6, "\u0cc6\u0cc8"),
  (0xD3E, "\u0d46\u0d4a\u0d47\u0d4b"), (0xD57, "\u0d46\u0d4c"), (0xDCA, "\u0dd9\u0dda\u0ddc\u0ddd"),
  (0xDCF, "\u0dd9\u0ddc"), (0xDDF, "\u0dd9\u0dde"), (0x102E, "ဥဦ"),
  (0x1B35, "ᬅᬆᬇᬈᬉᬊᬋᬌᬍᬎᬑᬒ\u1b3a\u1b3b\u1b3c\u1b3d\u1b3e\u1b40\u1b3f\u1b41\u1b42\u1b43"),
  (0x3099, "うゔかがきぎくぐけげこごさざしじすずせぜそぞただちぢつづてでとどはばひびふぶへべほぼゝゞウヴカガ"),
  (0x3099, "キギクグケゲコゴサザシジスズセゼソゾタダチヂツヅテデトドハバヒビフブヘベホボワヷヰヸヱヹヲヺヽヾ"), (0x309A, "はぱひぴふぷへぺほぽハパヒピフプヘペホポ"),
  (0x110BA, "𑂙𑂚𑂛𑂜𑂥𑂫"), (0x11127, "𑄱𑄮𑄲𑄯"), (0x1133E, "𑍇𑍋"), (0x11357, "𑍇𑍌"), (0x113B8, "𑏅𑎸"),
  (0x113BB, "𑎄𑎅"), (0x113C2, "𑎋𑎎𑏅𑏂"), (0x113C9, "𑎂𑎃𑎐𑎑𑏅𑏉"), (0x114B0, "𑒹𑒼"), (0x114BA, "𑒹𑒻"),
  (0x114BD, "𑒹𑒾"), (0x115AF, "𑖸𑖺𑖹𑖻"), (0x11930, "𑤵𑤸"), (0x1611E, "𖄡𖄞"), (0x1611F, "𖄦𖄡𖄦𖄢𖄧𖄩𖄤"),
  (0x16120, "𖄨𖄡𖄨"), (0x16129, "𖄡𖄩"), (0x16D67, "𖵣𖵪𖵨𖵩𖵪")]

structure Composite where
  first : Char
  second : Char
  whole : Char

/-- Characters two by two behind their second part. -/
def pairUp (second : Char) : List Char → List Composite
  | first :: whole :: rest => ⟨first, second, whole⟩ :: pairUp second rest
  | _ => []

def composites : List Composite :=
  table.flatMap fun (second, pairs) => pairUp (Char.ofNat second) pairs.toList

/-! ### Hangul

A syllable is a leading consonant, a vowel and perhaps a trailing consonant: 19, 21 and 27 of
them, each kind in a row of code points, and the syllables in a row in that order. -/

def syllables : Nat := 0xAC00
def leading : Nat := 0x1100
def vowels : Nat := 0x1161
/-- One below the first trailing consonant: the place of "none". -/
def trailing : Nat := 0x11A7

def isSyllable (n : Nat) : Bool :=
  syllables ≤ n && n < syllables + 19 * 21 * 28

/-- The parts of a syllable. -/
def letters (n : Nat) : List Char :=
  let index := n - syllables
  let pair := [Char.ofNat (leading + index / (21 * 28)), Char.ofNat (vowels + index / 28 % 21)]
  if index % 28 = 0 then pair else pair ++ [Char.ofNat (trailing + index % 28)]

/-- A consonant with a vowel, or an open syllable with a trailing consonant. -/
def syllable? (a b : Nat) : Option Char :=
  if leading ≤ a ∧ a < leading + 19 ∧ vowels ≤ b ∧ b < vowels + 21 then
    some (Char.ofNat (syllables + ((a - leading) * 21 + (b - vowels)) * 28))
  else if isSyllable a ∧ (a - syllables) % 28 = 0 ∧ trailing < b ∧ b < trailing + 28 then
    some (Char.ofNat (a + (b - trailing)))
  else none

/-! ### Taking apart, ordering and joining -/

/-- The parts of a character. The fuel is any number above the marks one character can hold. -/
def parts : Nat → Char → List Char
  | 0, c => [c]
  | fuel + 1, c =>
    if c.toNat < 0x80 then [c]
    else if isSyllable c.toNat then letters c.toNat
    else match composites.find? (·.whole = c) with
      | some composite => parts fuel composite.first ++ [composite.second]
      | none => [c]

/-- A mark put in front of marks in order: behind those of a lower class. -/
def sink (c : Char) : List Char → List Char
  | [] => [c]
  | d :: rest =>
    if 0 < combiningClass d ∧ combiningClass d < combiningClass c then d :: sink c rest
    else c :: d :: rest

/-- The marks between starters in the order of their classes. -/
def ordered (cs : List Char) : List Char :=
  cs.foldr sink []

def join? (first second : Char) : Option Char :=
  match syllable? first.toNat second.toNat with
  | some c => some c
  | none => (composites.find? fun e => e.first = first ∧ e.second = second).map (·.whole)

/-- A starter with what it takes up from the characters behind it. `kept` are the marks since the
starter that it did not take, last first; the class of the last one is `top`. A character is out
of reach behind a mark of its own class, a starter behind any mark. -/
def joined (starter : Char) (kept : List Char) (top : Nat) : List Char → List Char
  | [] => starter :: kept.reverse
  | c :: rest =>
    let k := combiningClass c
    let whole := if kept.isEmpty ∨ top < k then join? starter c else none
    match whole with
    | some s => joined s kept top rest
    | none =>
      if k = 0 then starter :: (kept.reverse ++ joined c [] 0 rest)
      else joined starter (c :: kept) k rest

def joinedAll : List Char → List Char
  | [] => []
  | c :: rest => if combiningClass c = 0 then joined c [] 0 rest else c :: joinedAll rest

end Composition

/-- The composed form of a text; ASCII has nothing to compose. -/
def composed (cs : List Char) : List Char :=
  if cs.all (·.toNat < 0x80) then cs
  else Composition.joinedAll (Composition.ordered (cs.flatMap (Composition.parts 4)))

end CloudApi.Text
