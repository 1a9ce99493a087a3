import Viewpoint.Unicode.Members

/-!
# Scripts

The writing systems of version 16 of the Unicode standard. A character belongs to one script, and
some characters are used by several.

* `Script.all` are the scripts, `Script.find?` finds one by its name.
-/

namespace Viewpoint.Unicode

/-- A script. -/
structure Script where
  /-- Its full name and its abbreviations, in lower case without separators. -/
  names : List String
  /-- The characters that belong to it. -/
  own : Members
  /-- The characters that it uses besides. -/
  also : List String := []
  /-- The characters that belong to it but are used by certain other scripts only. -/
  elsewhere : List String := []

namespace Script

/-- The scripts. -/
def all : List Script :=
  [⟨["adlam", "adlm"],
      .listed ["125184-76+4-10+4-2+"],
      ["1567-+32-+6670-+3569-+"], []⟩,
    ⟨["ahom"],
      .listed ["71424-27+2-15+4-23+"],
      [], []⟩,
    ⟨["anatolianhieroglyphs", "hluw"],
      .listed ["82944-583+"],
      [], []⟩,
    ⟨["arabic", "arab"],
      .listed ["1536-5+-6+-14+-3+-32+-10+11-26+-108+-34+80-48+240-31+-2+5-75+-29+62032-115+",
        "16-363+2-80+2-54+7-+32-16+112-5+-135+3939-31+67-3+55-4+57088-4+-27+-2+-+2-+-10+-4+-+",
        "-+6-+4-+-+-+-3+-2+-+2-+-+-+-+-+-2+-+2-4+-7+-4+-4+-+-10+-17+5-3+-5+-17+52-2+"],
      ["1548-+14-+3-+32-+10-11+26-+6622-+3569-+52988-2+1440-28+"], []⟩,
    ⟨["armenian", "armn"],
      .listed ["1329-38+2-50+2-3+62851-5+"],
      ["776-+"], []⟩,
    ⟨["avestan", "avst"],
      .listed ["68352-54+3-7+"],
      ["183-+11640-2+"], []⟩,
    ⟨["balinese", "bali"],
      .listed ["6912-77+-50+"],
      [], []⟩,
    ⟨["bamum", "bamu"],
      .listed ["42656-88+49416-569+"],
      [], []⟩,
    ⟨["bassavah", "bass"],
      .listed ["92880-30+2-6+"],
      [], []⟩,
    ⟨["batak", "batk"],
      .listed ["7104-52+8-4+"],
      [], []⟩,
    ⟨["bengali", "beng"],
      .listed ["2432-4+-8+2-2+2-22+-7+-+3-4+2-9+2-2+2-4+8-+4-2+-5+2-25+"],
      ["700-+1684-2+17-2+4970-+-+2-2+-+8-+8-+2-+4-+2-3+35833-+"], []⟩,
    ⟨["bhaiksuki", "bhks"],
      .listed ["72704-9+-45+-14+10-29+"],
      [], []⟩,
    ⟨["bopomofo", "bopo"],
      .listed ["746-2+11801-43+112-32+"],
      ["711-+-3+13-+11559-3+4-10+-13+10-4+2-+6-+195-+52553-2+282-5+"], []⟩,
    ⟨["brahmi", "brah"],
      .listed ["69632-78+4-36+9-+"],
      [], []⟩,
    ⟨["braille", "brai"],
      .listed ["10240-256+"],
      [], []⟩,
    ⟨["buginese", "bugi"],
      .listed ["6656-28+2-2+"],
      ["43471-+"], []⟩,
    ⟨["buhid", "buhd"],
      .listed ["5952-20+"],
      ["5941-2+"], []⟩,
    ⟨["canadianaboriginal", "cans"],
      .listed ["5120-640+560-70+65978-16+"],
      [], []⟩,
    ⟨["carian", "cari"],
      .listed ["66208-49+"],
      ["183-+8098-+2-+3539-+"], []⟩,
    ⟨["caucasianalbanian", "aghb"],
      .listed ["66864-52+11-+"],
      ["772-+44-+44-+"], []⟩,
    ⟨["chakma", "cakm"],
      .listed ["69888-53+-18+"],
      ["2534-10+1616-10+"], []⟩,
    ⟨["cham"],
      .listed ["43520-55+9-14+2-10+2-4+"],
      [], []⟩,
    ⟨["cherokee", "cher"],
      .listed ["5024-86+2-6+38770-80+"],
      ["768-3+-+6-2+22-2+11-2+"], []⟩,
    ⟨["chorasmian", "chrs"],
      .listed ["69552-28+"],
      [], []⟩,
    ⟨["common", "zyyy"],
      .listed ["65+26-6+26-47+-15+-5+23-+31-+449-39+5-5+2-20+116-+9-+6-+-+637-+6-+14-+3-+32-+",
        "156-+516-+129-2+1241-+405-4+290-+1519-3+71-2+203-2+-+1229-+13-+7-4+-6+-3+2-+773-12+",
        "2-87+-11+3-11+-15+17-33+63-38+-3+2-6+-27+-17+41-3+4-666+22-11+21-928+256-628+2-32+-",
        "105+512-94+402-21+-+-25+15-8+4-4+91-2+3-+90-2+147-16+32-38+9-+48-64+31-81+47-+88-",
        "168+6592-64+22784-34+102-3+165-10+244-+160-+395-+14-2+20946-2+208-10+22-35+-19+-4+",
        "147-+-32+26-6+26-11+10-+45-2+64-7+-7+10-5+258-3+4-45+3-9+80-13+51-45+228-27+47524-4+",
        "3932-250+6-436+156-116+60-246+10-39+2-62+3-17+8-2+7-30+4-61+213-20+12-20+12-87+9-25+",
        "135-85+-71+-2+2-+2-2+2-4+-12+-+-7+-65+-4+2-8+-7+-28+-4+-5+-+3-7+-340+2-292+2-50+",
        "5233-68+76-61+706-44+4-100+12-15+2-15+-15+-37+10-174+56-26+-2+13-44+4-9+7-2+14-6+",
        "154-984+4-17+3-13+3-119+4-95+6-12+4-+15-12+4-56+8-10+6-40+8-30+2-12+4-2+62-340+12-",
        "14+2-13+3-10+5-56+7-15+2-11+6-9+7-147+-102+787463-+30-96+"],
      [],
      ["183-+516-+10-+-3+-+9-+-+154-+663-+14-+3-+32-+803-2+1941-+1519-3+71-2+203-2+-+1229-+",
        "13-+7-4+-6+-3+2-+820-+31-+10-+2-+3513-+24-2+10-+4-+-+428-16+-3+2-+-10+-13+16-6+-+4-",
        "4+91-2+3-+90-2+147-16+32-38+9-+48-40+56-49+15-12+51-+88-25+10-5+96-31+29441-8+296-",
        "10+244-+160-+21358-2+261-2+282-5+10-+45-2+352-3+4-45+3-9+417-27+47524-4+5820-18+",
        "7902-2+"]⟩,
    ⟨["coptic", "copt", "qaac"],
      .listed ["994-14+10384-116+5-7+"],
      ["183-+584-+3-2+-+108-2+10913-+54472-28+"], []⟩,
    ⟨["cuneiform", "xsux"],
      .listed ["73728-922+102-111+-5+11-196+"],
      [], []⟩,
    ⟨["cypriot", "cprt"],
      .listed ["67584-6+2-+-44+-2+3-+2-+"],
      ["65792-3+4-45+3-9+"], []⟩,
    ⟨["cyprominoan", "cpmn"],
      .listed ["77712-99+"],
      ["65792-2+"], []⟩,
    ⟨["cyrillic", "cyrl"],
      .listed ["1024-133+2-169+5968-11+160-+76-+4199-32+30784-96+22414-2+57856-62+33-+"],
      ["700-+67-3+-+-+-+2-+5-+371-2+6513-+4170-+"], []⟩,
    ⟨["deseret", "dsrt"],
      .listed ["66560-80+"],
      [], []⟩,
    ⟨["devanagari", "deva"],
      .listed ["2304-81+4-15+2-26+40800-32+29184-10+"],
      ["700-+1684-2+17-2+4970-39+-2+1014-+34623-10+"], []⟩,
    ⟨["divesakuru", "diak"],
      .listed ["71936-7+2-+2-8+-2+-30+-2+2-12+9-10+"],
      [], []⟩,
    ⟨["dogra", "dogr"],
      .listed ["71680-60+"],
      ["2404-12+40640-10+"], []⟩,
    ⟨["duployan", "dupl"],
      .listed ["113664-107+5-13+3-9+7-10+2-4+"],
      ["183-+591-2+-+24-2+11031-+101987-4+"], []⟩,
    ⟨["egyptianhieroglyphs", "egyp"],
      .listed ["77824-1110+10-3995+"],
      [], []⟩,
    ⟨["elbasan", "elba"],
      .listed ["66816-40+"],
      ["183-+589-+"], []⟩,
    ⟨["elymaic", "elym"],
      .listed ["69600-23+"],
      [], []⟩,
    ⟨["ethiopic", "ethi"],
      .listed ["4608-73+-4+2-7+-+-4+2-41+-4+2-33+-4+2-7+-+-4+2-15+-57+-4+2-67+2-32+3-26+6630-",
        "23+9-7+-7+-7+-7+-7+-7+-7+-7+32034-6+2-6+2-6+9-7+-7+81073-7+-4+-2+-15+"],
      ["782-+"], []⟩,
    ⟨["garay", "gara"],
      .listed ["68928-38+3-29+8-2+"],
      ["1548-+14-+3-+"], []⟩,
    ⟨["georgian", "geor"],
      .listed ["4256-38+-+5-+2-43+-4+2960-43+2-3+4160-38+-+5-+"],
      ["183-+1233-+2929-+3934-+3542-+"], []⟩,
    ⟨["glagolitic", "glag"],
      .listed ["11264-96+111520-7+-17+2-7+-2+-5+"],
      ["183-+587-+-+382-+2-+257-+2929-+3934-+3560-+30763-+"], []⟩,
    ⟨["gothic", "goth"],
      .listed ["66352-27+"],
      ["183-+588-2+2-+40-+"], []⟩,
    ⟨["grantha", "gran"],
      .listed ["70400-4+-8+2-2+2-22+-7+-2+-5+2-9+2-2+2-3+2-+6-+5-7+2-7+3-5+"],
      ["2385-2+17-2+640-14+4316-+-2+30-3+3-2+1014-+62026-+3220-2+-+"], []⟩,
    ⟨["greek", "grek"],
      .listed ["880-4+-3+2-4+-+4-+-+-3+-+-20+-63+14-16+6438-5+50-5+4-5+84-+320-22+2-6+2-38+2-",
        "6+2-8+-+-+-+-31+2-53+-15+-14+2-6+-19+2-3+-9+295-+35390-+21978-79+17-+53343-70+"],
      ["183-+584-2+2-+-+-+10-+46-+2-+46-+6731-2+667-+"], []⟩,
    ⟨["gujarati", "gujr"],
      .listed ["2689-3+-9+-3+-22+-7+-2+-5+2-10+-3+-3+2-+15-4+2-12+7-7+"],
      ["2385-2+17-2+40650-10+"], []⟩,
    ⟨["gunjalagondi", "gong"],
      .listed ["73056-6+-2+-37+-2+-6+7-10+"],
      ["183-+2220-2+"], []⟩,
    ⟨["gurmukhi", "guru"],
      .listed ["2561-3+-6+4-2+2-22+-7+-2+-2+-2+2-+-5+4-2+2-3+3-+7-4+-+7-17+"],
      ["2385-2+17-2+40650-10+"], []⟩,
    ⟨["gurungkhema", "gukh"],
      .listed ["90368-58+"],
      ["2405-+"], []⟩,
    ⟨["hani", "han"],
      .listed ["11904-26+-89+12-214+47-+-+25-9+14-4+964-6592+64-20992+22784-366+2-106+29960-",
        "2+12-2+36878-42720+32-4154+6-222+2-5762+14-7473+15-622+2466-542+1506-4939+5-4192+"],
      ["183-+12088-16+-3+2-+-10+-13+10-4+2-+6-+4-4+187-+148-16+32-38+9-+48-40+56-49+15-12+51-",
        "+88-25+10-5+96-31+29441-8+22333-2+282-5+54266-18+7902-2+"], []⟩,
    ⟨["hangul", "hang"],
      .listed ["4352-256+7726-2+257-94+113-31+65-31+30433-29+643-11172+12-23+4-49+10148-31+3-",
        "6+2-6+2-6+2-3+"],
      ["12289-3+4-10+-13+16-+6-+195-+52553-2+282-5+"], []⟩,
    ⟨["hanifirohingya", "rohg"],
      .listed ["68864-40+8-10+"],
      ["1548-+14-+3-+32-+147-+"], []⟩,
    ⟨["hanunoo", "hano"],
      .listed ["5920-21+"],
      ["5941-2+"], []⟩,
    ⟨["hatran", "hatr"],
      .listed ["67808-19+-2+5-5+"],
      [], []⟩,
    ⟨["hebrew", "hebr"],
      .listed ["1425-55+8-27+4-6+62760-26+-5+-+-2+-2+-10+"],
      ["775-2+"], []⟩,
    ⟨["hiragana", "hira"],
      .listed ["12353-86+6-3+98145-287+18-+29-3+16557-+"],
      ["12289-3+4-10+-13+16-6+-+4-2+91-4+3-+90-2+52552-2+282-5+10-+45-2+"], []⟩,
    ⟨["imperialaramaic", "armi"],
      .listed ["67648-22+-9+"],
      [], []⟩,
    ⟨["inherited", "qaai", "zinh"],
      .listed ["768-112+277-2+452-11+26-+736-4+4443-31+513-3+-13+-7+4-+6-+3-2+198-64+524-2+",
        "194-33+3897-4+107-2+52581-16+16-14+975-+226-+4186-+48068-46+2-23+544-3+17-8+2-7+30-",
        "4+798546-240+"],
      [],
      ["768-15+-2+-+12-+2-3+7-2+-2+16-+2-+18-+5-+4-13+277-2+452-11+26-+736-2+4989-3+-13+-7+4-",
        "+6-+3-2+198-2+54-+-+757-+3897-4+107-2+53829-+4186-+"]⟩,
    ⟨["inscriptionalpahlavi", "phli"],
      .listed ["68448-19+5-8+"],
      [], []⟩,
    ⟨["inscriptionalparthian", "prti"],
      .listed ["68416-22+2-8+"],
      [], []⟩,
    ⟨["javanese", "java"],
      .listed ["43392-78+2-10+4-2+"],
      ["43471-+"], []⟩,
    ⟨["kaithi", "kthi"],
      .listed ["69760-67+10-+"],
      ["2406-10+9409-+31230-10+"], []⟩,
    ⟨["kannada", "knda"],
      .listed ["3200-13+-3+-23+-10+-5+2-9+-3+-4+7-2+6-2+-4+2-10+-3+"],
      ["2385-2+17-2+4970-+-2+6-+23-+-+35643-6+"], []⟩,
    ⟨["katakana", "kana"],
      .listed ["12449-90+2-3+240-16+208-47+-88+52238-10+-45+45138-4+-7+-2+-+287-3+50-+14-4+"],
      ["773-+29-+11485-3+4-10+-13+16-6+-+4-2+91-4+3-+90-2+52552-2+282-5+10-+45-2+"], []⟩,
    ⟨["kawi"],
      .listed ["73472-17+-41+3-29+"],
      [], []⟩,
    ⟨["kayahli", "kali"],
      .listed ["43264-46+-+"],
      ["43310-+"], []⟩,
    ⟨["kharoshthi", "khar"],
      .listed ["68096-4+-2+5-8+-3+-29+2-3+4-10+7-9+"],
      [], []⟩,
    ⟨["khitansmallscript", "kits"],
      .listed ["94180-+6939-470+41-+"],
      [], []⟩,
    ⟨["khmer", "khmr"],
      .listed ["6016-94+2-10+6-10+486-32+"],
      [], []⟩,
    ⟨["khojki", "khoj"],
      .listed ["70144-18+-47+"],
      ["2790-10+40256-10+"], []⟩,
    ⟨["khudawadi", "sind"],
      .listed ["70320-59+5-10+"],
      ["2404-2+40650-10+"], []⟩,
    ⟨["kiratrai", "krai"],
      .listed ["93504-58+"],
      [], []⟩,
    ⟨["laoo", "lao"],
      .listed ["3713-2+-+-5+-24+-+-23+2-5+-+-7+-10+2-4+"],
      [], []⟩,
    ⟨["latin", "latn"],
      .listed ["65-26+6-26+47-+15-+5-23+-31+-449+39-5+6683-38+6-49+5-4+5-13+-70+65-256+369-+",
        "13-+16-13+141-2+6-+27-+17-41+2775-32+31394-102+3-67+2-2+-+-8+21-14+816-43+-9+-4+",
        "20374-7+1050-26+6-26+2085-6+-42+-9+55109-31+6-6+"],
      ["183-+516-+10-+-3+-+9-+-+38-15+-2+-+12-+2-3+7-2+-2+38-+5-+4-13+277-2+1226-2+1960-+",
        "3324-+566-+192-+3366-+30952-8+550-+"], []⟩,
    ⟨["lepcha", "lepc"],
      .listed ["7168-56+3-15+3-3+"],
      [], []⟩,
    ⟨["limbu", "limb"],
      .listed ["6400-31+-12+4-12+4-+3-12+"],
      ["2405-+"], []⟩,
    ⟨["lineara", "lina"],
      .listed ["67072-311+9-22+10-8+"],
      ["65799-45+"], []⟩,
    ⟨["linearb", "linb"],
      .listed ["65536-12+-26+-19+-2+-15+2-14+34-123+"],
      ["65792-3+4-45+3-9+"], []⟩,
    ⟨["lisu"],
      .listed ["42192-48+31408-+"],
      ["700-+16-+11580-2+"], []⟩,
    ⟨["lycian", "lyci"],
      .listed ["66176-29+"],
      ["8282-+"], []⟩,
    ⟨["lydian", "lydi"],
      .listed ["67872-26+5-+"],
      ["183-+11641-+"], []⟩,
    ⟨["mahajani", "mahj"],
      .listed ["69968-39+"],
      ["183-+2220-12+40640-10+"], []⟩,
    ⟨["makasar", "maka"],
      .listed ["73440-25+"],
      [], []⟩,
    ⟨["malayalam", "mlym"],
      .listed ["3328-13+-3+-51+-3+-6+4-16+2-26+"],
      ["2385-2+17-2+4980-+23-+35645-3+"], []⟩,
    ⟨["mandaic", "mand"],
      .listed ["2112-28+2-+"],
      ["1600-+"], []⟩,
    ⟨["manichaean", "mani"],
      .listed ["68288-39+4-12+"],
      ["1600-+"], []⟩,
    ⟨["marchen", "marc"],
      .listed ["72816-32+2-22+-14+"],
      [], []⟩,
    ⟨["masaramgondi", "gonm"],
      .listed ["72960-7+-2+-44+3-+-2+-9+8-10+"],
      ["2404-2+"], []⟩,
    ⟨["medefaidrin", "medf"],
      .listed ["93760-91+"],
      [], []⟩,
    ⟨["meeteimayek", "mtei"],
      .listed ["43744-23+201-46+2-10+"],
      [], []⟩,
    ⟨["mendekikakui", "mend"],
      .listed ["124928-197+2-16+"],
      [], []⟩,
    ⟨["meroiticcursive", "merc"],
      .listed ["68000-24+4-20+2-46+"],
      [], []⟩,
    ⟨["meroitichieroglyphs", "mero"],
      .listed ["67968-32+"],
      ["8285-+"], []⟩,
    ⟨["miao", "plrd"],
      .listed ["93952-75+4-57+7-17+"],
      [], []⟩,
    ⟨["modi"],
      .listed ["71168-69+11-10+"],
      ["43056-10+"], []⟩,
    ⟨["mongolian", "mong"],
      .listed ["6144-2+2-+-20+6-89+7-43+64949-13+"],
      ["6146-2+-+2089-+4049-2+5-4+"], []⟩,
    ⟨["mroo", "mro"],
      .listed ["92736-31+-10+4-2+"],
      [], []⟩,
    ⟨["multani", "mult"],
      .listed ["70272-7+-+-4+-15+-11+"],
      ["2662-10+"], []⟩,
    ⟨["myanmar", "mymr"],
      .listed ["4096-160+39232-31+97-32+27728-20+"],
      ["43310-+"], []⟩,
    ⟨["nabataean", "nbat"],
      .listed ["67712-31+8-9+"],
      [], []⟩,
    ⟨["nagmundari", "nagm"],
      .listed ["124112-42+"],
      [], []⟩,
    ⟨["nandinagari", "nand"],
      .listed ["72096-8+2-46+2-11+"],
      ["2404-2+896-10+4089-+8-+7-+35637-6+"], []⟩,
    ⟨["newtailue", "talu"],
      .listed ["6528-44+4-26+6-11+3-2+"],
      [], []⟩,
    ⟨["newa"],
      .listed ["70656-92+-5+"],
      [], []⟩,
    ⟨["nkoo", "nko"],
      .listed ["1984-59+2-3+"],
      ["1548-+14-+3-+63262-2+"], []⟩,
    ⟨["nushu", "nshu"],
      .listed ["94177-+16782-396+"],
      [], []⟩,
    ⟨["nyiakengpuachuehmong", "hmnp"],
      .listed ["123136-45+3-14+2-10+4-2+"],
      [], []⟩,
    ⟨["ogham", "ogam"],
      .listed ["5760-29+"],
      [], []⟩,
    ⟨["olchiki", "olck"],
      .listed ["7248-48+"],
      [], []⟩,
    ⟨["olonal", "onao"],
      .listed ["124368-43+4-+"],
      ["2404-2+"], []⟩,
    ⟨["oldhungarian", "hung"],
      .listed ["68736-51+13-51+7-6+"],
      ["8282-+2-+3539-+15-+"], []⟩,
    ⟨["olditalic", "ital"],
      .listed ["66304-36+9-3+"],
      [], []⟩,
    ⟨["oldnortharabian", "narb"],
      .listed ["68224-32+"],
      [], []⟩,
    ⟨["oldpermic", "perm"],
      .listed ["66384-43+"],
      ["183-+584-+5-3+10-+367-+"], []⟩,
    ⟨["oldpersian", "xpeo"],
      .listed ["66464-36+4-14+"],
      [], []⟩,
    ⟨["oldsogdian", "sogo"],
      .listed ["69376-40+"],
      [], []⟩,
    ⟨["oldsoutharabian", "sarb"],
      .listed ["68192-32+"],
      [], []⟩,
    ⟨["oldturkic", "orkh"],
      .listed ["68608-73+"],
      ["8282-+3541-+"], []⟩,
    ⟨["olduyghur", "ougr"],
      .listed ["69488-26+"],
      ["1600-+66737-+"], []⟩,
    ⟨["oriya", "orya"],
      .listed ["2817-3+-8+2-2+2-22+-7+-2+-5+2-9+2-2+2-3+7-3+4-2+-5+2-18+"],
      ["2385-2+17-2+4980-+23-+"], []⟩,
    ⟨["osage", "osge"],
      .listed ["66736-36+4-36+"],
      ["769-+2-+6-+76-+"], []⟩,
    ⟨["osmanya", "osma"],
      .listed ["66688-30+2-10+"],
      [], []⟩,
    ⟨["pahawhhmong", "hmng"],
      .listed ["92928-70+10-10+-7+-21+5-19+"],
      [], []⟩,
    ⟨["palmyrene", "palm"],
      .listed ["67680-32+"],
      [], []⟩,
    ⟨["paucinhau", "pauc"],
      .listed ["72384-57+"],
      [], []⟩,
    ⟨["phagspa", "phag"],
      .listed ["43072-56+"],
      ["6146-2+-+2089-+4050-+"], []⟩,
    ⟨["phoenician", "phnx"],
      .listed ["67840-28+3-+"],
      [], []⟩,
    ⟨["psalterpahlavi", "phlp"],
      .listed ["68480-18+7-4+12-7+"],
      ["1600-+"], []⟩,
    ⟨["rejang", "rjng"],
      .listed ["43312-36+11-+"],
      [], []⟩,
    ⟨["runic", "runr"],
      .listed ["5792-75+3-11+"],
      ["5867-3+"], []⟩,
    ⟨["samaritan", "samr"],
      .listed ["2048-46+2-15+"],
      ["11825-+"], []⟩,
    ⟨["saurashtra", "saur"],
      .listed ["43136-70+8-12+"],
      [], []⟩,
    ⟨["sharada", "shrd"],
      .listed ["70016-96+"],
      ["2385-+4997-+-+2-2+2-+35663-6+2-+"], []⟩,
    ⟨["shavian", "shaw"],
      .listed ["66640-48+"],
      ["183-+"], []⟩,
    ⟨["siddham", "sidd"],
      .listed ["71040-54+2-38+"],
      [], []⟩,
    ⟨["signwriting", "sgnw"],
      .listed ["120832-652+15-5+-15+"],
      [], []⟩,
    ⟨["sinhala", "sinh"],
      .listed ["3457-3+-18+3-24+-9+-+2-7+3-+4-6+-+-8+6-10+2-3+66540-20+"],
      ["2404-2+5004-+"], []⟩,
    ⟨["sogdian", "sogd"],
      .listed ["69424-42+"],
      ["1600-+"], []⟩,
    ⟨["sorasompeng", "sora"],
      .listed ["69840-25+7-10+"],
      [], []⟩,
    ⟨["soyombo", "soyo"],
      .listed ["72272-83+"],
      [], []⟩,
    ⟨["sundanese", "sund"],
      .listed ["7040-64+256-8+"],
      [], []⟩,
    ⟨["sunuwar", "sunu"],
      .listed ["72640-34+14-10+"],
      ["768-2+-+9-+2-+28-+3-+"], []⟩,
    ⟨["sylotinagri", "sylo"],
      .listed ["43008-45+"],
      ["2404-2+128-10+"], []⟩,
    ⟨["syriac", "syrc"],
      .listed ["1792-14+-60+2-3+272-11+"],
      ["771-2+2-2+-+21-+2-3+7-2+-+731-+14-2+2-+32-+10-11+26-+6023-+-+"], []⟩,
    ⟨["tagalog", "tglg"],
      .listed ["5888-22+9-+"],
      ["5941-2+"], []⟩,
    ⟨["tagbanwa", "tagb"],
      .listed ["5984-13+-3+-2+"],
      ["5941-2+"], []⟩,
    ⟨["taile", "tale"],
      .listed ["6480-30+2-5+"],
      ["768-2+5-2+3-+3379-10+"], []⟩,
    ⟨["taitham", "lana"],
      .listed ["6688-63+-29+2-11+6-10+6-14+"],
      [], []⟩,
    ⟨["taiviet", "tavt"],
      .listed ["43648-67+24-5+"],
      [], []⟩,
    ⟨["takri", "takr"],
      .listed ["71296-58+6-10+"],
      ["2404-2+40650-10+"], []⟩,
    ⟨["tamil", "taml"],
      .listed ["2946-2+-6+3-3+-4+3-2+-+-2+3-2+3-3+3-12+4-5+3-3+-4+2-+6-+14-21+70597-50+13-+"],
      ["2385-2+17-2+4980-+35864-+27149-+-+55-2+"], []⟩,
    ⟨["tangsa", "tnsa"],
      .listed ["92784-79+-10+"],
      [], []⟩,
    ⟨["tangut", "tang"],
      .listed ["94176-+31-6136+8-768+512-9+"],
      ["12272-16+495-+"], []⟩,
    ⟨["telugu", "telu"],
      .listed ["3072-13+-3+-23+-16+2-9+-3+-4+7-2+-3+2-+2-4+2-10+7-9+"],
      ["2385-2+17-2+4980-+23-+"], []⟩,
    ⟨["thaana", "thaa"],
      .listed ["1920-50+"],
      ["1548-+14-2+2-+64-10+63368-+10-+"], []⟩,
    ⟨["thai"],
      .listed ["3585-58+5-28+"],
      ["700-+26-+43-+45-+"], []⟩,
    ⟨["tibetan", "tibt"],
      .listed ["3840-72+-36+4-39+-36+-15+-7+4-2+"],
      ["12296-4+"], []⟩,
    ⟨["tifinagh", "tfng"],
      .listed ["11568-56+7-2+14-+"],
      ["770-+-+2-+-+"], []⟩,
    ⟨["tirhuta", "tirh"],
      .listed ["70784-72+8-10+"],
      ["2385-2+17-2+5004-+35645-10+"], []⟩,
    ⟨["todhri", "todr"],
      .listed ["67008-52+"],
      ["769-+2-+2-+9-+-+74-+"], []⟩,
    ⟨["toto"],
      .listed ["123536-31+"],
      ["700-+"], []⟩,
    ⟨["tulutigalari", "tutg"],
      .listed ["70528-10+-+2-+-38+-10+-+2-+-4+-10+-2+8-2+"],
      ["3302-10+4098-+-+35643-6+187-+"], []⟩,
    ⟨["ugaritic", "ugar"],
      .listed ["66432-30+-+"],
      [], []⟩,
    ⟨["vaii", "vai"],
      .listed ["42240-300+"],
      [], []⟩,
    ⟨["vithkuqi", "vith"],
      .listed ["66928-11+-15+-7+-2+-11+-15+-7+-2+"],
      [], []⟩,
    ⟨["wancho", "wcho"],
      .listed ["123584-58+5-+"],
      [], []⟩,
    ⟨["warangciti", "wara"],
      .listed ["71840-83+12-+"],
      [], []⟩,
    ⟨["yezidi", "yezi"],
      .listed ["69248-42+-3+2-2+"],
      ["1548-+14-+3-+64-10+"], []⟩,
    ⟨["yiii", "yi"],
      .listed ["40960-1165+3-55+"],
      ["12289-2+5-10+2-8+223-+52837-5+"], []⟩,
    ⟨["zanabazarsquare", "zanb"],
      .listed ["72192-72+"],
      [], []⟩]

/-- The script with a given name. -/
def find? (name : String) : Option Script :=
  all.find? (·.names.contains name)

/-- The characters that a script uses. -/
def used (script : Script) : Members :=
  .without (.union script.own (.listed script.also)) (.listed script.elsewhere)

end Script

end Viewpoint.Unicode
