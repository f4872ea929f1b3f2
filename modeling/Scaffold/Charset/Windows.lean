import Scaffold.Charset.Basic

/-!
# Code pages of Windows

The code pages of Windows with one byte to a character.
-/

namespace Scaffold.Charset.Windows

/-- Thai. -/
def page874 : Charset :=
  ⟨"cp874",
    [],
    .ofRows [
      "€    …          ",
      " ‘’“”•–—        ",
      "\u00A0กขฃคฅฆงจฉชซฌญฎฏ",
      "ฐฑฒณดตถทธนบปผฝพฟ",
      "ภมยรฤลฦวศษสหฬอฮฯ",
      "ะ\u0E31าำ\u0E34\u0E35\u0E36\u0E37\u0E38\u0E39\u0E3A    ฿",
      "เแโใไๅ\u0E46\u0E47\u0E48\u0E49\u0E4A\u0E4B\u0E4C\u0E4D\u0E4E๏",
      "๐๑๒๓๔๕๖๗๘๙๚๛    "]⟩

/-- Central European. -/
def page1250 : Charset :=
  ⟨"cp1250",
    ["1250", "windows_1250"],
    .ofRows [
      "€ ‚ „…†‡ ‰Š‹ŚŤŽŹ",
      " ‘’“”•–— ™š›śťžź",
      "\u00A0\u02C7\u02D8Ł¤Ą¦§\u00A8©Ş«¬\u00AD®Ż",
      "°±\u02DBł\u00B4µ¶·\u00B8ąş»Ľ\u02DDľż",
      "ŔÁÂĂÄĹĆÇČÉĘËĚÍÎĎ",
      "ĐŃŇÓÔŐÖ×ŘŮÚŰÜÝŢß",
      "ŕáâăäĺćçčéęëěíîď",
      "đńňóôőö÷řůúűüýţ\u02D9"]⟩

/-- Cyrillic. -/
def page1251 : Charset :=
  ⟨"cp1251",
    ["1251", "windows_1251"],
    .ofRows [
      "ЂЃ‚ѓ„…†‡€‰Љ‹ЊЌЋЏ",
      "ђ‘’“”•–— ™љ›њќћџ",
      "\u00A0ЎўЈ¤Ґ¦§Ё©Є«¬\u00AD®Ї",
      "°±Ііґµ¶·ё№є»јЅѕї",
      "АБВГДЕЖЗИЙКЛМНОП",
      "РСТУФХЦЧШЩЪЫЬЭЮЯ",
      "абвгдежзийклмноп",
      "рстуфхцчшщъыьэюя"]⟩

/-- Western European. -/
def page1252 : Charset :=
  ⟨"cp1252",
    ["1252", "windows_1252"],
    .ofRows [
      "€ ‚ƒ„…†‡\u02C6‰Š‹Œ Ž ",
      " ‘’“”•–—\u02DC™š›œ žŸ",
      "\u00A0¡¢£¤¥¦§\u00A8©ª«¬\u00AD®\u00AF",
      "°±²³\u00B4µ¶·\u00B8¹º»¼½¾¿",
      "ÀÁÂÃÄÅÆÇÈÉÊËÌÍÎÏ",
      "ÐÑÒÓÔÕÖ×ØÙÚÛÜÝÞß",
      "àáâãäåæçèéêëìíîï",
      "ðñòóôõö÷øùúûüýþÿ"]⟩

/-- Greek. -/
def page1253 : Charset :=
  ⟨"cp1253",
    ["1253", "windows_1253"],
    .ofRows [
      "€ ‚ƒ„…†‡ ‰ ‹    ",
      " ‘’“”•–— ™ ›    ",
      "\u00A0\u0385Ά£¤¥¦§\u00A8© «¬\u00AD®―",
      "°±²³\u0384µ¶·ΈΉΊ»Ό½ΎΏ",
      "ΐΑΒΓΔΕΖΗΘΙΚΛΜΝΞΟ",
      "ΠΡ ΣΤΥΦΧΨΩΪΫάέήί",
      "ΰαβγδεζηθικλμνξο",
      "πρςστυφχψωϊϋόύώ "]⟩

/-- Turkish. -/
def page1254 : Charset :=
  ⟨"cp1254",
    ["1254", "windows_1254"],
    .ofRows [
      "€ ‚ƒ„…†‡\u02C6‰Š‹Œ   ",
      " ‘’“”•–—\u02DC™š›œ  Ÿ",
      "\u00A0¡¢£¤¥¦§\u00A8©ª«¬\u00AD®\u00AF",
      "°±²³\u00B4µ¶·\u00B8¹º»¼½¾¿",
      "ÀÁÂÃÄÅÆÇÈÉÊËÌÍÎÏ",
      "ĞÑÒÓÔÕÖ×ØÙÚÛÜİŞß",
      "àáâãäåæçèéêëìíîï",
      "ğñòóôõö÷øùúûüışÿ"]⟩

/-- Hebrew. -/
def page1255 : Charset :=
  ⟨"cp1255",
    ["1255", "windows_1255"],
    .ofRows [
      "€ ‚ƒ„…†‡\u02C6‰ ‹    ",
      " ‘’“”•–—\u02DC™ ›    ",
      "\u00A0¡¢£₪¥¦§\u00A8©×«¬\u00AD®\u00AF",
      "°±²³\u00B4µ¶·\u00B8¹÷»¼½¾¿",
      "\u05B0\u05B1\u05B2\u05B3\u05B4\u05B5\u05B6\u05B7\u05B8\u05B9 \u05BB\u05BC\u05BD\u05BE\u05BF",
      "\u05C0\u05C1\u05C2\u05C3\u05F0\u05F1\u05F2\u05F3\u05F4       ",
      "\u05D0\u05D1\u05D2\u05D3\u05D4\u05D5\u05D6\u05D7",
      "\u05D8\u05D9\u05DA\u05DB\u05DC\u05DD\u05DE\u05DF",
      "\u05E0\u05E1\u05E2\u05E3\u05E4\u05E5\u05E6\u05E7\u05E8\u05E9\u05EA  \u200E\u200F "]⟩

/-- Arabic. -/
def page1256 : Charset :=
  ⟨"cp1256",
    ["1256", "windows_1256"],
    .ofRows [
      "€\u067E‚ƒ„…†‡\u02C6‰\u0679‹Œ\u0686\u0698\u0688",
      "\u06AF‘’“”•–—\u06A9™\u0691›œ\u200C\u200D\u06BA",
      "\u00A0،¢£¤¥¦§\u00A8©\u06BE«¬\u00AD®\u00AF",
      "°±²³\u00B4µ¶·\u00B8¹\u061B»¼½¾\u061F",
      "\u06C1\u0621\u0622\u0623\u0624\u0625\u0626\u0627",
      "\u0628\u0629\u062A\u062B\u062C\u062D\u062E\u062F",
      "\u0630\u0631\u0632\u0633\u0634\u0635\u0636×\u0637\u0638\u0639\u063A\u0640\u0641\u0642\u0643",
      "à\u0644â\u0645\u0646\u0647\u0648çèéêë\u0649\u064Aîï",
      "\u064B\u064C\u064D\u064Eô\u064F\u0650÷\u0651ù\u0652ûü\u200E\u200F\u06D2"]⟩

/-- Baltic. -/
def page1257 : Charset :=
  ⟨"cp1257",
    ["1257", "windows_1257"],
    .ofRows [
      "€ ‚ „…†‡ ‰ ‹ \u00A8\u02C7\u00B8",
      " ‘’“”•–— ™ › \u00AF\u02DB ",
      "\u00A0 ¢£¤ ¦§Ø©Ŗ«¬\u00AD®Æ",
      "°±²³\u00B4µ¶·ø¹ŗ»¼½¾æ",
      "ĄĮĀĆÄÅĘĒČÉŹĖĢĶĪĻ",
      "ŠŃŅÓŌÕÖ×ŲŁŚŪÜŻŽß",
      "ąįāćäåęēčéźėģķīļ",
      "šńņóōõö÷ųłśūüżž\u02D9"]⟩

/-- Vietnamese. -/
def page1258 : Charset :=
  ⟨"cp1258",
    ["1258", "windows_1258"],
    .ofRows [
      "€ ‚ƒ„…†‡\u02C6‰ ‹Œ   ",
      " ‘’“”•–—\u02DC™ ›œ  Ÿ",
      "\u00A0¡¢£¤¥¦§\u00A8©ª«¬\u00AD®\u00AF",
      "°±²³\u00B4µ¶·\u00B8¹º»¼½¾¿",
      "ÀÁÂĂÄÅÆÇÈÉÊË\u0300ÍÎÏ",
      "ĐÑ\u0309ÓÔƠÖ×ØÙÚÛÜƯ\u0303ß",
      "àáâăäåæçèéêë\u0301íîï",
      "đñ\u0323óôơö÷øùúûüư₫ÿ"]⟩

def all : List Charset :=
  [page874, page1250, page1251, page1252, page1253, page1254, page1255, page1256, page1257,
    page1258]

end Scaffold.Charset.Windows
