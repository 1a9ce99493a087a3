import Viewpoint.Unicode.Binary

/-!
# Kinds of characters at boundaries

Where a visible character, a word or a sentence ends depends on the kinds of the characters around
the place. The kinds are those of version 16 of the Unicode standard.

* `graphemeKinds`, `wordKinds` and `sentenceKinds` are the kinds with their names.
-/

namespace Viewpoint.Unicode

/-- The syllables of the Korean script. -/
def hangulSyllables : Members :=
  .listed ["44032-11172+"]

/-- The syllables of the Korean script that end in a vowel: every 28th one. -/
def openSyllables : Members :=
  .listed ["44032-+27-+27-+27-+27-+27-+27-+27-+27-+27-+27-+27-+27-+27-+27-+27-+27-+27-+27-+",
    "27-+27-+27-+27-+27-+27-+27-+27-+27-+27-+27-+27-+27-+27-+27-+27-+27-+27-+27-+27-+27-+27-+",
    "27-+27-+27-+27-+27-+27-+27-+27-+27-+27-+27-+27-+27-+27-+27-+27-+27-+27-+27-+27-+27-+27-+",
    "27-+27-+27-+27-+27-+27-+27-+27-+27-+27-+27-+27-+27-+27-+27-+27-+27-+27-+27-+27-+27-+27-+",
    "27-+27-+27-+27-+27-+27-+27-+27-+27-+27-+27-+27-+27-+27-+27-+27-+27-+27-+27-+27-+27-+27-+",
    "27-+27-+27-+27-+27-+27-+27-+27-+27-+27-+27-+27-+27-+27-+27-+27-+27-+27-+27-+27-+27-+27-+",
    "27-+27-+27-+27-+27-+27-+27-+27-+27-+27-+27-+27-+27-+27-+27-+27-+27-+27-+27-+27-+27-+27-+",
    "27-+27-+27-+27-+27-+27-+27-+27-+27-+27-+27-+27-+27-+27-+27-+27-+27-+27-+27-+27-+27-+27-+",
    "27-+27-+27-+27-+27-+27-+27-+27-+27-+27-+27-+27-+27-+27-+27-+27-+27-+27-+27-+27-+27-+27-+",
    "27-+27-+27-+27-+27-+27-+27-+27-+27-+27-+27-+27-+27-+27-+27-+27-+27-+27-+27-+27-+27-+27-+",
    "27-+27-+27-+27-+27-+27-+27-+27-+27-+27-+27-+27-+27-+27-+27-+27-+27-+27-+27-+27-+27-+27-+",
    "27-+27-+27-+27-+27-+27-+27-+27-+27-+27-+27-+27-+27-+27-+27-+27-+27-+27-+27-+27-+27-+27-+",
    "27-+27-+27-+27-+27-+27-+27-+27-+27-+27-+27-+27-+27-+27-+27-+27-+27-+27-+27-+27-+27-+27-+",
    "27-+27-+27-+27-+27-+27-+27-+27-+27-+27-+27-+27-+27-+27-+27-+27-+27-+27-+27-+27-+27-+27-+",
    "27-+27-+27-+27-+27-+27-+27-+27-+27-+27-+27-+27-+27-+27-+27-+27-+27-+27-+27-+27-+27-+27-+",
    "27-+27-+27-+27-+27-+27-+27-+27-+27-+27-+27-+27-+27-+27-+27-+27-+27-+27-+27-+27-+27-+27-+",
    "27-+27-+27-+27-+27-+27-+27-+27-+27-+27-+27-+27-+27-+27-+27-+27-+27-+27-+27-+27-+27-+27-+",
    "27-+27-+27-+27-+27-+27-+27-+27-+27-+27-+27-+27-+27-+27-+27-+27-+27-+27-+27-+27-+27-+27-+",
    "27-+27-+27-+27-+27-+27-+"]

/-- The kinds of characters at the boundaries of visible characters. -/
def graphemeKinds : List NamedMembers :=
  [⟨["cr"], .listed ["13-+"]⟩,
    ⟨["control", "cn"],
      .without
        (.union (.categories [.lineSeparator, .paragraphSeparator, .control, .format])
          (.inter (.categories [.unassigned]) defaultIgnorableCodePoint))
        (.listed ["10-+2-+1522-6+215-+49-+384-2+80-+5929-2+61615-+15-+847698-96+"])⟩,
    ⟨["extend", "ex"],
      .union graphemeExtend emojiModifier⟩,
    ⟨["l"], .listed ["4352-96+38912-29+"]⟩,
    ⟨["lf"], .listed ["10-+"]⟩,
    ⟨["lv"],
      openSyllables⟩,
    ⟨["lvt"],
      .without hangulSyllables openSyllables⟩,
    ⟨["prepend", "pp"],
      .listed ["1536-6+215-+49-+384-2+80-+1131-+66414-+15-+244-2+525-+1389-+-+248-+73-6+700-+",
        "443-+"]⟩,
    ⟨["regionalindicator", "ri"], .listed ["127462-26+"]⟩,
    ⟨["spacingmark", "sm"],
      .without (.union (.categories [.spacingMark]) (.listed ["3635-+127-+"]))
        (.union graphemeExtend
          (.listed ["4139-2+11-+41-3+2-7+21-+3-6+2-+10-3+2500-+-2+36886-+-+27810-2+"]))⟩,
    ⟨["t"], .listed ["4520-88+50635-49+"]⟩,
    ⟨["v"], .listed ["4448-72+50696-23+38300-+3-4+"]⟩,
    ⟨["zwj"], .listed ["8205-+"]⟩]

/-- The kinds of characters at the boundaries of words. -/
def wordKinds : List NamedMembers :=
  [⟨["aletter", "le"],
      .listed ["65-26+6-26+47-+10-+4-+5-23+-31+-480+6-34+112-5+-2+2-4+-+6-+-3+-+-20+-83+-139+",
        "8-166+-38+2-4+-+-41+-+104-+44-43+35-2+-99+-+15-2+7-2+10-3+2-+15-2+-30+29-89+11-+24-",
        "33+9-2+4-+5-22+4-+9-+3-+23-25+7-11+5-24+-6+17-42+58-54+3-+18-+7-10+15-16+4-8+2-2+2-",
        "22+-7+-+3-4+3-+16-+13-2+-3+14-2+10-+8-6+4-2+2-22+-7+-2+-2+-2+31-4+-+19-3+16-9+-3+-",
        "22+-7+-2+-5+3-+18-+15-2+23-+11-8+2-2+2-22+-7+-2+-5+3-+30-2+-3+15-+17-+-6+3-3+-4+3-2+",
        "-+-2+3-2+3-3+3-12+22-+52-8+-3+-23+-16+3-+26-3+2-+2-2+30-+4-8+-3+-23+-10+-5+3-+31-2+-",
        "2+15-2+17-9+-3+-41+2-+16-+5-3+8-3+24-6+5-18+3-24+-9+-+2-7+313-+63-8+-36+27-5+275-38+",
        "-+5-+2-43+-333+-4+2-7+-+-4+2-41+-4+2-33+-4+2-7+-+-4+2-15+-57+-4+2-67+37-16+16-86+2-",
        "6+3-620+2-17+-26+5-75+3-11+7-18+13-19+14-18+14-13+-3+175-89+7-5+2-34+-+5-70+10-31+",
        "225-23+238-47+17-8+54-30+13-2+10-44+26-36+41-3+10-36+2-11+5-43+2-3+41-4+-6+-2+3-+5-",
        "192+64-278+2-6+2-38+2-6+2-8+-+-+-+-31+2-53+-7+-+3-3+-7+3-4+2-6+4-13+5-3+-7+116-+13-+",
        "16-13+101-+4-+2-10+-+3-5+6-+-+-+-4+-11+2-4+5-5+4-+17-41+813-52+1814-229+6-4+3-2+12-",
        "38+-+5-+2-56+7-+16-23+9-7+-7+-7+-7+-7+-7+-7+-7+80-+469-+53-2+200-43+-94+17-32+28224-",
        "1165+67-46+2-269+3-16+10-2+20-47+16-31+2-80+24-198+2-2+-+-8+21-16+-3+-4+-23+29-52+",
        "14-50+62-6+3-+-2+11-28+10-23+25-29+7-47+28-+48-41+23-3+-8+148-11+7-3+12-6+2-6+2-6+9-",
        "7+-7+-58+6-115+29-11172+12-23+4-49+8964-7+12-5+56-98+33-363+18-64+2-54+40-12+116-5+-",
        "135+36-26+6-26+69-31+3-6+2-6+2-6+2-3+35-12+-26+-19+-2+-15+2-14+34-123+69-53+267-29+",
        "3-49+47-32+13-30+5-38+10-30+2-36+4-8+-5+42-158+18-36+4-36+4-40+8-52+12-11+-15+-7+-2+",
        "-11+-15+-7+-2+3-52+12-311+9-22+10-8+24-6+-42+-9+69-6+2-+-44+-2+3-+2-23+10-23+9-31+",
        "65-19+-2+10-22+10-26+70-56+6-2+64-+15-4+-3+-29+42-29+3-29+35-8+-28+27-54+10-22+10-",
        "19+13-18+110-73+55-51+13-51+13-36+38-28+9-23+250-42+6-2+16-3+59-29+10-+8-22+42-18+",
        "46-21+27-23+12-53+57-2+2-+13-45+32-25+26-36+29-+2-+8-35+3-+12-48+14-4+21-+-+35-18+-",
        "25+19-2+63-7+-+-4+-15+-10+7-47+38-8+2-2+2-22+-7+-2+-5+3-+18-+12-5+30-10+-+2-+-38+-+",
        "25-+-+44-53+18-4+20-3+30-48+20-2+-+184-47+41-4+36-48+20-+59-43+13-+327-44+116-64+31-",
        "8+2-+2-8+-2+-24+15-+-+94-8+2-39+16-+-+28-+10-40+7-+21-+11-46+19-+18-73+199-33+31-9+-",
        "37+17-+49-30+112-7+-2+-38+21-+25-6+-2+-32+14-+327-19+15-+-13+-34+124-+79-922+102-",
        "111+17-196+2636-97+15-1072+17-6+25-3995+5-583+6841-30+1762-569+7-31+17-79+17-30+18-",
        "48+16-4+31-21+5-19+432-45+211-64+128-75+5-+66-13+64-2+-+19484-107+5-13+3-9+7-10+",
        "5990-85+-71+-2+2-+2-2+2-4+-12+-+-7+-65+-4+2-8+-7+-28+-4+-5+-+3-7+-340+2-25+-25+-31+-",
        "25+-31+-25+-31+-25+-31+-25+-8+1844-31+6-6+261-62+146-45+10-7+16-+321-30+18-44+484-",
        "28+228-30+2-+495-7+-4+-2+-15+-197+59-68+7-+1204-4+-27+-2+-+2-+-10+-4+-+-+6-+4-+-+-+-",
        "3+-2+-+2-+-+-+-+-+-2+-+2-4+-7+-4+-4+-+-10+-17+5-3+-5+-17+628-26+6-26+6-26+"]⟩,
    ⟨["cr"], .listed ["13-+"]⟩,
    ⟨["doublequote", "dq"], .listed ["34-+"]⟩,
    ⟨["extend"],
      .union graphemeExtend (.union emojiModifier (.categories [.spacingMark]))⟩,
    ⟨["extendnumlet", "ex"], .listed ["95-+8143-+15-2+19-+56798-2+24-3+239-+"]⟩,
    ⟨["format", "fo"],
      .without (.categories [.format])
        (.listed ["1536-6+215-+49-+384-2+80-+5928-3+61615-+15-+847698-96+"])⟩,
    ⟨["hebrewletter", "hl"], .listed ["1488-27+4-4+62762-+-10+-13+-5+-+-2+-2+-10+"]⟩,
    ⟨["katakana", "ka"],
      .listed ["12337-5+101-2+3-91+-4+240-16+208-47+-88+52238-56+45138-4+-7+-2+-+287-3+50-+",
        "14-4+"]⟩,
    ⟨["lf"], .listed ["10-+"]⟩,
    ⟨["midletter", "ml"], .listed ["58-+124-+719-+471-+148-+6706-+56811-+65-+196-+"]⟩,
    ⟨["midnum", "mn"], .listed ["44-+14-+834-+522-+130-2+94-+395-+6219-+56843-+3-+183-+14-+"]⟩,
    ⟨["midnumlet", "mb"], .listed ["46-+8169-2+10-+56877-+180-+6-+"]⟩,
    ⟨["newline", "nl"], .listed ["11-2+120-+8098-2+"]⟩,
    ⟨["numeric", "nu"],
      .union (.categories [.decimalNumber])
        (.listed ["1536-6+101-+113-+434-2+80-+4343-+63202-+15-+"])⟩,
    ⟨["regionalindicator", "ri"], .listed ["127462-26+"]⟩,
    ⟨["singlequote", "sq"], .listed ["39-+"]⟩,
    ⟨["wsegspace"], .listed ["32-+5727-+2431-7+-3+84-+4000-+"]⟩,
    ⟨["zwj"], .listed ["8205-+"]⟩]

/-- Characters that continue a word or a sentence. -/
def sentenceExtend : Members :=
  .union graphemeExtend (.union (.categories [.spacingMark]) joinControl)

/-- Lowercase letters within sentences. -/
def sentenceLower : Members :=
  .without (.without lowercase graphemeExtend) (.listed ["4304-43+2-3+"])

/-- Uppercase letters within sentences. -/
def sentenceUpper : Members :=
  .without (.union uppercase (.categories [.titlecaseLetter])) (.listed ["7312-43+2-3+"])

/-- The kinds of characters at the boundaries of sentences. -/
def sentenceKinds : List NamedMembers :=
  [⟨["aterm", "at"], .listed ["46-+8181-+56877-+187-+"]⟩,
    ⟨["cr"], .listed ["13-+"]⟩,
    ⟨["close", "cl"],
      .without
        (.union (.categories [.openPunctuation, .closePunctuation, .initialPunctuation,
          .finalPunctuation])
          (.union quotationMark (.listed ["10075-6+1695-2+4-3+2-+116842-3+"])))
        (.listed ["65282-+4-+"])⟩,
    ⟨["extend", "ex"],
      sentenceExtend⟩,
    ⟨["format", "fo"],
      .without (.categories [.format])
        (.listed ["1536-6+215-+434-2+80-+5929-2+61615-+15-+847698-96+"])⟩,
    ⟨["lf"], .listed ["10-+"]⟩,
    ⟨["lower", "lo"],
      sentenceLower⟩,
    ⟨["numeric", "nu"],
      .union (.categories [.decimalNumber])
        (.listed ["1536-6+101-2+112-+434-2+80-+4343-+63202-+15-+"])⟩,
    ⟨["oletter", "le"],
      .without (.union alphabetic (.listed ["1523-+"]))
        (.union sentenceExtend (.union sentenceLower sentenceUpper))⟩,
    ⟨["scontinue", "sc"],
      .listed ["44-2+12-2+834-+478-+174-2+490-+4105-+5-+2058-2+4076-+52750-2+-2+28-2+29-2+2-",
        "2+2-+10-+168-2+12-2+72-+"]⟩,
    ⟨["sterm", "st"],
      .without sentenceTerminal (.listed ["46-+8181-+56877-+187-+"])⟩,
    ⟨["sep", "se"], .listed ["133-+8098-2+"]⟩,
    ⟨["sp"],
      .without whiteSpace (.listed ["10-+2-+119-+8098-2+"])⟩,
    ⟨["upper", "up"],
      sentenceUpper⟩]

end Viewpoint.Unicode
