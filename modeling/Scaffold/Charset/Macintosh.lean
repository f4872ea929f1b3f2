import Scaffold.Charset.Basic

/-!
# Character sets of the Macintosh

The character sets of the Macintosh with ASCII in their lower half.
-/

namespace Scaffold.Charset.Macintosh

def croatian : Charset :=
  ⟨"mac_croatian",
    [],
    .ofRows [
      "ÄÅÇÉÑÖÜáàâäãåçéè",
      "êëíìîïñóòôöõúùûü",
      "†°¢£§•¶ß®Š™\u00B4\u00A8≠ŽØ",
      "∞±≤≥∆µ∂∑∏š∫ªºΩžø",
      "¿¡¬√ƒ≈Ć«Č…\u00A0ÀÃÕŒœ",
      "Đ—“”‘’÷◊\uF8FF©⁄€‹›Æ»",
      "–·‚„‰ÂćÁčÈÍÎÏÌÓÔ",
      "đÒÚÛÙı\u02C6\u02DC\u00AFπË\u02DA\u00B8Êæ\u02C7"]⟩

def cyrillic : Charset :=
  ⟨"mac_cyrillic",
    ["maccyrillic"],
    .ofRows [
      "АБВГДЕЖЗИЙКЛМНОП",
      "РСТУФХЦЧШЩЪЫЬЭЮЯ",
      "†°Ґ£§•¶І®©™Ђђ≠Ѓѓ",
      "∞±≤≥іµґЈЄєЇїЉљЊњ",
      "јЅ¬√ƒ≈∆«»…\u00A0ЋћЌќѕ",
      "–—“”‘’÷„ЎўЏџ№Ёёя",
      "абвгдежзийклмноп",
      "рстуфхцчшщъыьэю€"]⟩

def greek : Charset :=
  ⟨"mac_greek",
    ["macgreek"],
    .ofRows [
      "Ä¹²É³ÖÜ\u0385àâä\u0384\u00A8çéè",
      "êë£™îï•½‰ôö¦€ùûü",
      "†ΓΔΘΛΞΠß®©ΣΪ§≠°·",
      "Α±≤≥¥ΒΕΖΗΙΚΜΦΫΨΩ",
      "άΝ¬ΟΡ≈Τ«»…\u00A0ΥΧΆΈœ",
      "–―“”‘’÷ΉΊΌΎέήίόΏ",
      "ύαβψδεφγηιξκλμνο",
      "πώρστθωςχυζϊϋΐΰ\u00AD"]⟩

def icelandic : Charset :=
  ⟨"mac_iceland",
    ["maciceland"],
    .ofRows [
      "ÄÅÇÉÑÖÜáàâäãåçéè",
      "êëíìîïñóòôöõúùûü",
      "Ý°¢£§•¶ß®©™\u00B4\u00A8≠ÆØ",
      "∞±≤≥¥µ∂∑∏π∫ªºΩæø",
      "¿¡¬√ƒ≈∆«»…\u00A0ÀÃÕŒœ",
      "–—“”‘’÷◊ÿŸ⁄€ÐðÞþ",
      "ý·‚„‰ÂÊÁËÈÍÎÏÌÓÔ",
      "\uF8FFÒÚÛÙı\u02C6\u02DC\u00AF\u02D8\u02D9\u02DA\u00B8\u02DD\u02DB\u02C7"]⟩

def centralEuropean : Charset :=
  ⟨"mac_latin2",
    ["maccentraleurope", "mac_centeuro", "maclatin2"],
    .ofRows [
      "ÄĀāÉĄÖÜáąČäčĆćéŹ",
      "źĎíďĒēĖóėôöõúĚěü",
      "†°Ę£§•¶ß®©™ę\u00A8≠ģĮ",
      "įĪ≤≥īĶ∂∑łĻļĽľĹĺŅ",
      "ņŃ¬√ńŇ∆«»…\u00A0ňŐÕőŌ",
      "–—“”‘’÷◊ōŔŕŘ‹›řŖ",
      "ŗŠ‚„šŚśÁŤťÍŽžŪÓÔ",
      "ūŮÚůŰűŲųÝýķŻŁżĢ\u02C7"]⟩

def roman : Charset :=
  ⟨"mac_roman",
    ["macintosh", "macroman"],
    .ofRows [
      "ÄÅÇÉÑÖÜáàâäãåçéè",
      "êëíìîïñóòôöõúùûü",
      "†°¢£§•¶ß®©™\u00B4\u00A8≠ÆØ",
      "∞±≤≥¥µ∂∑∏π∫ªºΩæø",
      "¿¡¬√ƒ≈∆«»…\u00A0ÀÃÕŒœ",
      "–—“”‘’÷◊ÿŸ⁄€‹›ﬁﬂ",
      "‡·‚„‰ÂÊÁËÈÍÎÏÌÓÔ",
      "\uF8FFÒÚÛÙı\u02C6\u02DC\u00AF\u02D8\u02D9\u02DA\u00B8\u02DD\u02DB\u02C7"]⟩

def romanian : Charset :=
  ⟨"mac_romanian",
    [],
    .ofRows [
      "ÄÅÇÉÑÖÜáàâäãåçéè",
      "êëíìîïñóòôöõúùûü",
      "†°¢£§•¶ß®©™\u00B4\u00A8≠ĂȘ",
      "∞±≤≥¥µ∂∑∏π∫ªºΩăș",
      "¿¡¬√ƒ≈∆«»…\u00A0ÀÃÕŒœ",
      "–—“”‘’÷◊ÿŸ⁄€‹›Țț",
      "‡·‚„‰ÂÊÁËÈÍÎÏÌÓÔ",
      "\uF8FFÒÚÛÙı\u02C6\u02DC\u00AF\u02D8\u02D9\u02DA\u00B8\u02DD\u02DB\u02C7"]⟩

def turkish : Charset :=
  ⟨"mac_turkish",
    ["macturkish"],
    .ofRows [
      "ÄÅÇÉÑÖÜáàâäãåçéè",
      "êëíìîïñóòôöõúùûü",
      "†°¢£§•¶ß®©™\u00B4\u00A8≠ÆØ",
      "∞±≤≥¥µ∂∑∏π∫ªºΩæø",
      "¿¡¬√ƒ≈∆«»…\u00A0ÀÃÕŒœ",
      "–—“”‘’÷◊ÿŸĞğİıŞş",
      "‡·‚„‰ÂÊÁËÈÍÎÏÌÓÔ",
      "\uF8FFÒÚÛÙ\uF8A0\u02C6\u02DC\u00AF\u02D8\u02D9\u02DA\u00B8\u02DD\u02DB\u02C7"]⟩

def all : List Charset :=
  [croatian, cyrillic, greek, icelandic, centralEuropean, roman, romanian, turkish]

end Scaffold.Charset.Macintosh
