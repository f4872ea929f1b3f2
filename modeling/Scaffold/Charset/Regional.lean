import Scaffold.Charset.Basic

/-!
# Regional character sets

Character sets of single countries, languages and devices.
-/

namespace Scaffold.Charset.Regional

/-- Russian. -/
def koi8r : Charset :=
  ⟨"koi8_r",
    ["cskoi8r"],
    .ofRows [
      "─│┌┐└┘├┤┬┴┼▀▄█▌▐",
      "░▒▓⌠■∙√≈≤≥\u00A0⌡°²·÷",
      "═║╒ё╓╔╕╖╗╘╙╚╛╜╝╞",
      "╟╠╡Ё╢╣╤╥╦╧╨╩╪╫╬©",
      "юабцдефгхийклмно",
      "пярстужвьызшэщчъ",
      "ЮАБЦДЕФГХИЙКЛМНО",
      "ПЯРСТУЖВЬЫЗШЭЩЧЪ"]⟩

/-- Tajik. -/
def koi8t : Charset :=
  ⟨"koi8_t",
    [],
    .ofRows [
      "қғ‚Ғ„…†‡ ‰ҳ‹ҲҷҶ ",
      "Қ‘’“”•–— ™ ›    ",
      " ӯӮё¤ӣ¦§   «¬\u00AD® ",
      "°±²Ё Ӣ¶· № »   ©",
      "юабцдефгхийклмно",
      "пярстужвьызшэщчъ",
      "ЮАБЦДЕФГХИЙКЛМНО",
      "ПЯРСТУЖВЬЫЗШЭЩЧЪ"]⟩

/-- Ukrainian. -/
def koi8u : Charset :=
  ⟨"koi8_u",
    [],
    .ofRows [
      "─│┌┐└┘├┤┬┴┼▀▄█▌▐",
      "░▒▓⌠■∙√≈≤≥\u00A0⌡°²·÷",
      "═║╒ёє╔ії╗╘╙╚╛ґ╝╞",
      "╟╠╡ЁЄ╣ІЇ╦╧╨╩╪Ґ╬©",
      "юабцдефгхийклмно",
      "пярстужвьызшэщчъ",
      "ЮАБЦДЕФГХИЙКЛМНО",
      "ПЯРСТУЖВЬЫЗШЭЩЧЪ"]⟩

/-- Kazakh. -/
def kz1048 : Charset :=
  ⟨"kz1048",
    ["kz_1048", "rk1048", "strk1048_2002"],
    .ofRows [
      "ЂЃ‚ѓ„…†‡€‰Љ‹ЊҚҺЏ",
      "ђ‘’“”•–— ™љ›њқһџ",
      "\u00A0ҰұӘ¤Ө¦§Ё©Ғ«¬\u00AD®Ү",
      "°±Ііөµ¶·ё№ғ»әҢңү",
      "АБВГДЕЖЗИЙКЛМНОП",
      "РСТУФХЦЧШЩЪЫЬЭЮЯ",
      "абвгдежзийклмноп",
      "рстуфхцчшщъыьэюя"]⟩

/-- The Cyrillic of Asia. -/
def asianCyrillic : Charset :=
  ⟨"ptcp154",
    ["csptcp154", "pt154", "cp154", "cyrillic_asian"],
    .ofRows [
      "ҖҒӮғ„…ҶҮҲүҠӢҢҚҺҸ",
      "җ‘’“”•–—ҳҷҡӣңқһҹ",
      "\u00A0ЎўЈӨҘҰ§Ё©Ә«¬ӯ®Ҝ",
      "°ұІіҙө¶·ё№ә»јҪҫҝ",
      "АБВГДЕЖЗИЙКЛМНОП",
      "РСТУФХЦЧШЩЪЫЬЭЮЯ",
      "абвгдежзийклмноп",
      "рстуфхцчшщъыьэюя"]⟩

/-- Thai. -/
def tis620 : Charset :=
  ⟨"tis_620",
    ["tis620", "tis_620_0", "tis_620_2529_0", "tis_620_2529_1", "iso_ir_166"],
    .ofGraphics [
      " กขฃคฅฆงจฉชซฌญฎฏ",
      "ฐฑฒณดตถทธนบปผฝพฟ",
      "ภมยรฤลฦวศษสหฬอฮฯ",
      "ะ\u0E31าำ\u0E34\u0E35\u0E36\u0E37\u0E38\u0E39\u0E3A    ฿",
      "เแโใไๅ\u0E46\u0E47\u0E48\u0E49\u0E4A\u0E4B\u0E4C\u0E4D\u0E4E๏",
      "๐๑๒๓๔๕๖๗๘๙๚๛    "]⟩

/-- Urdu. -/
def urdu : Charset :=
  ⟨"cp1006",
    [],
    .ofGraphics [
      "\u00A0۰۱۲۳۴۵۶۷۸۹،\u061B\u00AD\u061F\uFE81",
      "\uFE8D\uFE8E\uFE8E\uFE8F\uFE91\uFB56\uFB58\uFE93",
      "\uFE95\uFE97\uFB66\uFB68\uFE99\uFE9B\uFE9D\uFE9F",
      "\uFB7A\uFB7C\uFEA1\uFEA3\uFEA5\uFEA7\uFEA9\uFB84",
      "\uFEAB\uFEAD\uFB8C\uFEAF\uFB8A\uFEB1\uFEB3\uFEB5",
      "\uFEB7\uFEB9\uFEBB\uFEBD\uFEBF\uFEC1\uFEC5\uFEC9",
      "\uFECA\uFECB\uFECC\uFECD\uFECE\uFECF\uFED0\uFED1",
      "\uFED3\uFED5\uFED7\uFED9\uFEDB\uFB92\uFB94\uFEDD",
      "\uFEDF\uFEE0\uFEE1\uFEE3\uFB9E\uFEE5\uFEE7\uFE85",
      "\uFEED\uFBA6\uFBA8\uFBA9\uFBAA\uFE80\uFE89\uFE8A",
      "\uFE8B\uFEF1\uFEF2\uFEF3\uFBB0\uFBAE\uFE7C\uFE7D"]⟩

/-- Western European on printers and terminals. -/
def hpRoman8 : Charset :=
  ⟨"hp_roman8",
    ["roman8", "r8", "cp1051", "ibm1051"],
    .ofGraphics [
      "\u00A0ÀÂÈÊËÎÏ\u00B4\u02CB\u02C6\u00A8\u02DCÙÛ₤",
      "\u00AFÝý°ÇçÑñ¡¿¤£¥§ƒ¢",
      "âêôûáéóúàèòùäëöü",
      "ÅîØÆåíøæÄìÖÜÉïßÔ",
      "ÁÃãÐðÍÌÓÒÕõŠšÚŸÿ",
      "Þþ·µ¶¾—¼½ªº«■»± "]⟩

/-- Western European on hand-held devices. -/
def palm : Charset :=
  ⟨"palmos",
    [],
    .ofRows [
      "€\u0081‚ƒ„…†‡\u02C6‰Š‹Œ♦♣♥",
      "♠‘’“”•–—\u02DC™š\u009Bœ\u009D\u009EŸ",
      "\u00A0¡¢£¤¥¦§\u00A8©ª«¬\u00AD®\u00AF",
      "°±²³\u00B4µ¶·\u00B8¹º»¼½¾¿",
      "ÀÁÂÃÄÅÆÇÈÉÊËÌÍÎÏ",
      "ÐÑÒÓÔÕÖ×ØÙÚÛÜÝÞß",
      "àáâãäåæçèéêëìíîï",
      "ðñòóôõö÷øùúûüýþÿ"]⟩

def all : List Charset :=
  [koi8r, koi8t, koi8u, kz1048, asianCyrillic, tis620, urdu, hpRoman8, palm]

end Scaffold.Charset.Regional
