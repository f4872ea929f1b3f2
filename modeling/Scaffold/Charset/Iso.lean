import Scaffold.Charset.Basic

/-!
# ISO 8859

The parts of ISO 8859, one for each script or region.
-/

namespace Scaffold.Charset.Iso

/-- Central European. -/
def part2 : Charset :=
  ⟨"iso8859_2",
    ["csisolatin2", "iso_8859_2", "iso_8859_2_1987", "iso_ir_101", "l2", "latin2"],
    .ofGraphics [
      "\u00A0Ą\u02D8Ł¤ĽŚ§\u00A8ŠŞŤŹ\u00ADŽŻ",
      "°ą\u02DBł\u00B4ľś\u02C7\u00B8šşťź\u02DDžż",
      "ŔÁÂĂÄĹĆÇČÉĘËĚÍÎĎ",
      "ĐŃŇÓÔŐÖ×ŘŮÚŰÜÝŢß",
      "ŕáâăäĺćçčéęëěíîď",
      "đńňóôőö÷řůúűüýţ\u02D9"]⟩

/-- South European. -/
def part3 : Charset :=
  ⟨"iso8859_3",
    ["csisolatin3", "iso_8859_3", "iso_8859_3_1988", "iso_ir_109", "l3", "latin3"],
    .ofGraphics [
      "\u00A0Ħ\u02D8£¤ Ĥ§\u00A8İŞĞĴ\u00AD Ż",
      "°ħ²³\u00B4µĥ·\u00B8ışğĵ½ ż",
      "ÀÁÂ ÄĊĈÇÈÉÊËÌÍÎÏ",
      " ÑÒÓÔĠÖ×ĜÙÚÛÜŬŜß",
      "àáâ äċĉçèéêëìíîï",
      " ñòóôġö÷ĝùúûüŭŝ\u02D9"]⟩

/-- North European. -/
def part4 : Charset :=
  ⟨"iso8859_4",
    ["csisolatin4", "iso_8859_4", "iso_8859_4_1988", "iso_ir_110", "l4", "latin4"],
    .ofGraphics [
      "\u00A0ĄĸŖ¤ĨĻ§\u00A8ŠĒĢŦ\u00ADŽ\u00AF",
      "°ą\u02DBŗ\u00B4ĩļ\u02C7\u00B8šēģŧŊžŋ",
      "ĀÁÂÃÄÅÆĮČÉĘËĖÍÎĪ",
      "ĐŅŌĶÔÕÖ×ØŲÚÛÜŨŪß",
      "āáâãäåæįčéęëėíîī",
      "đņōķôõö÷øųúûüũū\u02D9"]⟩

/-- Cyrillic. -/
def part5 : Charset :=
  ⟨"iso8859_5",
    ["csisolatincyrillic", "cyrillic", "iso_8859_5", "iso_8859_5_1988", "iso_ir_144"],
    .ofGraphics [
      "\u00A0ЁЂЃЄЅІЇЈЉЊЋЌ\u00ADЎЏ",
      "АБВГДЕЖЗИЙКЛМНОП",
      "РСТУФХЦЧШЩЪЫЬЭЮЯ",
      "абвгдежзийклмноп",
      "рстуфхцчшщъыьэюя",
      "№ёђѓєѕіїјљњћќ§ўџ"]⟩

/-- Arabic. -/
def part6 : Charset :=
  ⟨"iso8859_6",
    ["arabic", "asmo_708", "csisolatinarabic", "ecma_114", "iso_8859_6", "iso_8859_6_1987",
     "iso_ir_127"],
    .ofGraphics [
      "\u00A0   ¤       ،\u00AD  ",
      "           \u061B   \u061F",
      " \u0621\u0622\u0623\u0624\u0625\u0626\u0627\u0628\u0629\u062A\u062B\u062C\u062D\u062E\u062F",
      "\u0630\u0631\u0632\u0633\u0634\u0635\u0636\u0637\u0638\u0639\u063A     ",
      "\u0640\u0641\u0642\u0643\u0644\u0645\u0646\u0647",
      "\u0648\u0649\u064A\u064B\u064C\u064D\u064E\u064F",
      "\u0650\u0651\u0652             "]⟩

/-- Greek. -/
def part7 : Charset :=
  ⟨"iso8859_7",
    ["csisolatingreek", "ecma_118", "elot_928", "greek", "greek8", "iso_8859_7", "iso_8859_7_1987",
     "iso_ir_126"],
    .ofGraphics [
      "\u00A0‘’£€₯¦§\u00A8©\u037A«¬\u00AD ―",
      "°±²³\u0384\u0385Ά·ΈΉΊ»Ό½ΎΏ",
      "ΐΑΒΓΔΕΖΗΘΙΚΛΜΝΞΟ",
      "ΠΡ ΣΤΥΦΧΨΩΪΫάέήί",
      "ΰαβγδεζηθικλμνξο",
      "πρςστυφχψωϊϋόύώ "]⟩

/-- Hebrew. -/
def part8 : Charset :=
  ⟨"iso8859_8",
    ["csisolatinhebrew", "hebrew", "iso_8859_8", "iso_8859_8_1988", "iso_ir_138"],
    .ofGraphics [
      "\u00A0 ¢£¤¥¦§\u00A8©×«¬\u00AD®\u00AF",
      "°±²³\u00B4µ¶·\u00B8¹÷»¼½¾ ",
      "                ",
      "               ‗",
      "\u05D0\u05D1\u05D2\u05D3\u05D4\u05D5\u05D6\u05D7",
      "\u05D8\u05D9\u05DA\u05DB\u05DC\u05DD\u05DE\u05DF",
      "\u05E0\u05E1\u05E2\u05E3\u05E4\u05E5\u05E6\u05E7\u05E8\u05E9\u05EA  \u200E\u200F "]⟩

/-- Turkish. -/
def part9 : Charset :=
  ⟨"iso8859_9",
    ["csisolatin5", "iso_8859_9", "iso_8859_9_1989", "iso_ir_148", "l5", "latin5"],
    .ofGraphics [
      "\u00A0¡¢£¤¥¦§\u00A8©ª«¬\u00AD®\u00AF",
      "°±²³\u00B4µ¶·\u00B8¹º»¼½¾¿",
      "ÀÁÂÃÄÅÆÇÈÉÊËÌÍÎÏ",
      "ĞÑÒÓÔÕÖ×ØÙÚÛÜİŞß",
      "àáâãäåæçèéêëìíîï",
      "ğñòóôõö÷øùúûüışÿ"]⟩

/-- Nordic. -/
def part10 : Charset :=
  ⟨"iso8859_10",
    ["csisolatin6", "iso_8859_10", "iso_8859_10_1992", "iso_ir_157", "l6", "latin6"],
    .ofGraphics [
      "\u00A0ĄĒĢĪĨĶ§ĻĐŠŦŽ\u00ADŪŊ",
      "°ąēģīĩķ·ļđšŧž―ūŋ",
      "ĀÁÂÃÄÅÆĮČÉĘËĖÍÎÏ",
      "ÐŅŌÓÔÕÖŨØŲÚÛÜÝÞß",
      "āáâãäåæįčéęëėíîï",
      "ðņōóôõöũøųúûüýþĸ"]⟩

/-- Thai. -/
def part11 : Charset :=
  ⟨"iso8859_11",
    ["thai", "iso_8859_11", "iso_8859_11_2001"],
    .ofGraphics [
      "\u00A0กขฃคฅฆงจฉชซฌญฎฏ",
      "ฐฑฒณดตถทธนบปผฝพฟ",
      "ภมยรฤลฦวศษสหฬอฮฯ",
      "ะ\u0E31าำ\u0E34\u0E35\u0E36\u0E37\u0E38\u0E39\u0E3A    ฿",
      "เแโใไๅ\u0E46\u0E47\u0E48\u0E49\u0E4A\u0E4B\u0E4C\u0E4D\u0E4E๏",
      "๐๑๒๓๔๕๖๗๘๙๚๛    "]⟩

/-- Baltic. -/
def part13 : Charset :=
  ⟨"iso8859_13",
    ["iso_8859_13", "l7", "latin7"],
    .ofGraphics [
      "\u00A0”¢£¤„¦§Ø©Ŗ«¬\u00AD®Æ",
      "°±²³“µ¶·ø¹ŗ»¼½¾æ",
      "ĄĮĀĆÄÅĘĒČÉŹĖĢĶĪĻ",
      "ŠŃŅÓŌÕÖ×ŲŁŚŪÜŻŽß",
      "ąįāćäåęēčéźėģķīļ",
      "šńņóōõö÷ųłśūüżž’"]⟩

/-- Celtic. -/
def part14 : Charset :=
  ⟨"iso8859_14",
    ["iso_8859_14", "iso_8859_14_1998", "iso_celtic", "iso_ir_199", "l8", "latin8"],
    .ofGraphics [
      "\u00A0Ḃḃ£ĊċḊ§Ẁ©ẂḋỲ\u00AD®Ÿ",
      "ḞḟĠġṀṁ¶ṖẁṗẃṠỳẄẅṡ",
      "ÀÁÂÃÄÅÆÇÈÉÊËÌÍÎÏ",
      "ŴÑÒÓÔÕÖṪØÙÚÛÜÝŶß",
      "àáâãäåæçèéêëìíîï",
      "ŵñòóôõöṫøùúûüýŷÿ"]⟩

/-- Western European with the euro sign. -/
def part15 : Charset :=
  ⟨"iso8859_15",
    ["iso_8859_15", "l9", "latin9"],
    .ofGraphics [
      "\u00A0¡¢£€¥Š§š©ª«¬\u00AD®\u00AF",
      "°±²³Žµ¶·ž¹º»ŒœŸ¿",
      "ÀÁÂÃÄÅÆÇÈÉÊËÌÍÎÏ",
      "ÐÑÒÓÔÕÖ×ØÙÚÛÜÝÞß",
      "àáâãäåæçèéêëìíîï",
      "ðñòóôõö÷øùúûüýþÿ"]⟩

/-- South-Eastern European. -/
def part16 : Charset :=
  ⟨"iso8859_16",
    ["iso_8859_16", "iso_8859_16_2001", "iso_ir_226", "l10", "latin10"],
    .ofGraphics [
      "\u00A0ĄąŁ€„Š§š©Ș«Ź\u00ADźŻ",
      "°±ČłŽ”¶·žčș»ŒœŸż",
      "ÀÁÂĂÄĆÆÇÈÉÊËÌÍÎÏ",
      "ĐŃÒÓÔŐÖŚŰÙÚÛÜĘȚß",
      "àáâăäćæçèéêëìíîï",
      "đńòóôőöśűùúûüęțÿ"]⟩

def all : List Charset :=
  [part2, part3, part4, part5, part6, part7, part8, part9, part10, part11, part13, part14,
    part15, part16]

end Scaffold.Charset.Iso
