import Scaffold.Charset.Basic

/-!
# Code pages of personal computers

The code pages of DOS, which have frames and blocks beside their letters.
-/

namespace Scaffold.Charset.Dos

/-- The first one. -/
def page437 : Charset :=
  ⟨"cp437",
    ["437", "cspc8codepage437", "ibm437"],
    .ofRows [
      "ÇüéâäàåçêëèïîìÄÅ",
      "ÉæÆôöòûùÿÖÜ¢£¥₧ƒ",
      "áíóúñÑªº¿⌐¬½¼¡«»",
      "░▒▓│┤╡╢╖╕╣║╗╝╜╛┐",
      "└┴┬├─┼╞╟╚╔╩╦╠═╬╧",
      "╨╤╥╙╘╒╓╫╪┘┌█▄▌▐▀",
      "αßΓπΣσµτΦΘΩδ∞φε∩",
      "≡±≥≤⌠⌡÷≈°∙·√\u207F²■\u00A0"]⟩

/-- Arabic. -/
def page720 : Charset :=
  ⟨"cp720",
    [],
    .ofRows [
      "\u0080\u0081éâ\u0084à\u0086çêëèïî\u008D\u008E\u008F",
      "\u0090\u0651\u0652ô¤\u0640ûù\u0621\u0622\u0623\u0624£\u0625\u0626\u0627",
      "\u0628\u0629\u062A\u062B\u062C\u062D\u062E\u062F\u0630\u0631\u0632\u0633\u0634\u0635«»",
      "░▒▓│┤╡╢╖╕╣║╗╝╜╛┐",
      "└┴┬├─┼╞╟╚╔╩╦╠═╬╧",
      "╨╤╥╙╘╒╓╫╪┘┌█▄▌▐▀",
      "\u0636\u0637\u0638\u0639\u063A\u0641µ\u0642\u0643\u0644\u0645\u0646\u0647\u0648\u0649\u064A",
      "≡\u064B\u064C\u064D\u064E\u064F\u0650≈°∙·√\u207F²■\u00A0"]⟩

/-- Greek. -/
def page737 : Charset :=
  ⟨"cp737",
    [],
    .ofRows [
      "ΑΒΓΔΕΖΗΘΙΚΛΜΝΞΟΠ",
      "ΡΣΤΥΦΧΨΩαβγδεζηθ",
      "ικλμνξοπρσςτυφχψ",
      "░▒▓│┤╡╢╖╕╣║╗╝╜╛┐",
      "└┴┬├─┼╞╟╚╔╩╦╠═╬╧",
      "╨╤╥╙╘╒╓╫╪┘┌█▄▌▐▀",
      "ωάέήϊίόύϋώΆΈΉΊΌΎ",
      "Ώ±≥≤ΪΫ÷≈°∙·√\u207F²■\u00A0"]⟩

/-- Baltic. -/
def page775 : Charset :=
  ⟨"cp775",
    ["775", "cspc775baltic", "ibm775"],
    .ofRows [
      "ĆüéāäģåćłēŖŗīŹÄÅ",
      "ÉæÆōöĢ¢ŚśÖÜø£Ø×¤",
      "ĀĪóŻżź”¦©®¬½¼Ł«»",
      "░▒▓│┤ĄČĘĖ╣║╗╝ĮŠ┐",
      "└┴┬├─┼ŲŪ╚╔╩╦╠═╬Ž",
      "ąčęėįšųūž┘┌█▄▌▐▀",
      "ÓßŌŃõÕµńĶķĻļņĒŅ’",
      "\u00AD±“¾¶§÷„°∙·¹³²■\u00A0"]⟩

/-- Western European. -/
def page850 : Charset :=
  ⟨"cp850",
    ["850", "cspc850multilingual", "ibm850"],
    .ofRows [
      "ÇüéâäàåçêëèïîìÄÅ",
      "ÉæÆôöòûùÿÖÜø£Ø×ƒ",
      "áíóúñÑªº¿®¬½¼¡«»",
      "░▒▓│┤ÁÂÀ©╣║╗╝¢¥┐",
      "└┴┬├─┼ãÃ╚╔╩╦╠═╬¤",
      "ðÐÊËÈıÍÎÏ┘┌█▄¦Ì▀",
      "ÓßÔÒõÕµþÞÚÛÙýÝ\u00AF\u00B4",
      "\u00AD±‗¾¶§÷\u00B8°\u00A8·¹³²■\u00A0"]⟩

/-- Central European. -/
def page852 : Charset :=
  ⟨"cp852",
    ["852", "cspcp852", "ibm852"],
    .ofRows [
      "ÇüéâäůćçłëŐőîŹÄĆ",
      "ÉĹĺôöĽľŚśÖÜŤťŁ×č",
      "áíóúĄąŽžĘę¬źČş«»",
      "░▒▓│┤ÁÂĚŞ╣║╗╝Żż┐",
      "└┴┬├─┼Ăă╚╔╩╦╠═╬¤",
      "đĐĎËďŇÍÎě┘┌█▄ŢŮ▀",
      "ÓßÔŃńňŠšŔÚŕŰýÝţ\u00B4",
      "\u00AD\u02DD\u02DB\u02C7\u02D8§÷\u00B8°\u00A8\u02D9űŘř■\u00A0"]⟩

/-- Cyrillic. -/
def page855 : Charset :=
  ⟨"cp855",
    ["855", "csibm855", "ibm855"],
    .ofRows [
      "ђЂѓЃёЁєЄѕЅіІїЇјЈ",
      "љЉњЊћЋќЌўЎџЏюЮъЪ",
      "аАбБцЦдДеЕфФгГ«»",
      "░▒▓│┤хХиИ╣║╗╝йЙ┐",
      "└┴┬├─┼кК╚╔╩╦╠═╬¤",
      "лЛмМнНоОп┘┌█▄Пя▀",
      "ЯрРсСтТуУжЖвВьЬ№",
      "\u00ADыЫзЗшШэЭщЩчЧ§■\u00A0"]⟩

/-- Hebrew. -/
def page856 : Charset :=
  ⟨"cp856",
    [],
    .ofRows [
      "\u05D0\u05D1\u05D2\u05D3\u05D4\u05D5\u05D6\u05D7",
      "\u05D8\u05D9\u05DA\u05DB\u05DC\u05DD\u05DE\u05DF",
      "\u05E0\u05E1\u05E2\u05E3\u05E4\u05E5\u05E6\u05E7\u05E8\u05E9\u05EA £ × ",
      "         ®¬½¼ «»",
      "░▒▓│┤   ©╣║╗╝¢¥┐",
      "└┴┬├─┼  ╚╔╩╦╠═╬¤",
      "         ┘┌█▄¦ ▀",
      "      µ       \u00AF\u00B4",
      "\u00AD±‗¾¶§÷\u00B8°\u00A8·¹³²■\u00A0"]⟩

/-- Turkish. -/
def page857 : Charset :=
  ⟨"cp857",
    ["857", "csibm857", "ibm857"],
    .ofRows [
      "ÇüéâäàåçêëèïîıÄÅ",
      "ÉæÆôöòûùİÖÜø£ØŞş",
      "áíóúñÑĞğ¿®¬½¼¡«»",
      "░▒▓│┤ÁÂÀ©╣║╗╝¢¥┐",
      "└┴┬├─┼ãÃ╚╔╩╦╠═╬¤",
      "ºªÊËÈ ÍÎÏ┘┌█▄¦Ì▀",
      "ÓßÔÒõÕµ ×ÚÛÙìÿ\u00AF\u00B4",
      "\u00AD± ¾¶§÷\u00B8°\u00A8·¹³²■\u00A0"]⟩

/-- Western European with the euro sign. -/
def page858 : Charset :=
  ⟨"cp858",
    ["858", "csibm858", "ibm858"],
    .ofRows [
      "ÇüéâäàåçêëèïîìÄÅ",
      "ÉæÆôöòûùÿÖÜø£Ø×ƒ",
      "áíóúñÑªº¿®¬½¼¡«»",
      "░▒▓│┤ÁÂÀ©╣║╗╝¢¥┐",
      "└┴┬├─┼ãÃ╚╔╩╦╠═╬¤",
      "ðÐÊËÈ€ÍÎÏ┘┌█▄¦Ì▀",
      "ÓßÔÒõÕµþÞÚÛÙýÝ\u00AF\u00B4",
      "\u00AD±‗¾¶§÷\u00B8°\u00A8·¹³²■\u00A0"]⟩

/-- Portuguese. -/
def page860 : Charset :=
  ⟨"cp860",
    ["860", "csibm860", "ibm860"],
    .ofRows [
      "ÇüéâãàÁçêÊèÍÔìÃÂ",
      "ÉÀÈôõòÚùÌÕÜ¢£Ù₧Ó",
      "áíóúñÑªº¿Ò¬½¼¡«»",
      "░▒▓│┤╡╢╖╕╣║╗╝╜╛┐",
      "└┴┬├─┼╞╟╚╔╩╦╠═╬╧",
      "╨╤╥╙╘╒╓╫╪┘┌█▄▌▐▀",
      "αßΓπΣσµτΦΘΩδ∞φε∩",
      "≡±≥≤⌠⌡÷≈°∙·√\u207F²■\u00A0"]⟩

/-- Icelandic. -/
def page861 : Charset :=
  ⟨"cp861",
    ["861", "cp_is", "csibm861", "ibm861"],
    .ofRows [
      "ÇüéâäàåçêëèÐðÞÄÅ",
      "ÉæÆôöþûÝýÖÜø£Ø₧ƒ",
      "áíóúÁÍÓÚ¿⌐¬½¼¡«»",
      "░▒▓│┤╡╢╖╕╣║╗╝╜╛┐",
      "└┴┬├─┼╞╟╚╔╩╦╠═╬╧",
      "╨╤╥╙╘╒╓╫╪┘┌█▄▌▐▀",
      "αßΓπΣσµτΦΘΩδ∞φε∩",
      "≡±≥≤⌠⌡÷≈°∙·√\u207F²■\u00A0"]⟩

/-- Hebrew. -/
def page862 : Charset :=
  ⟨"cp862",
    ["862", "cspc862latinhebrew", "ibm862"],
    .ofRows [
      "\u05D0\u05D1\u05D2\u05D3\u05D4\u05D5\u05D6\u05D7",
      "\u05D8\u05D9\u05DA\u05DB\u05DC\u05DD\u05DE\u05DF",
      "\u05E0\u05E1\u05E2\u05E3\u05E4\u05E5\u05E6\u05E7\u05E8\u05E9\u05EA¢£¥₧ƒ",
      "áíóúñÑªº¿⌐¬½¼¡«»",
      "░▒▓│┤╡╢╖╕╣║╗╝╜╛┐",
      "└┴┬├─┼╞╟╚╔╩╦╠═╬╧",
      "╨╤╥╙╘╒╓╫╪┘┌█▄▌▐▀",
      "αßΓπΣσµτΦΘΩδ∞φε∩",
      "≡±≥≤⌠⌡÷≈°∙·√\u207F²■\u00A0"]⟩

/-- Canadian French. -/
def page863 : Charset :=
  ⟨"cp863",
    ["863", "csibm863", "ibm863"],
    .ofRows [
      "ÇüéâÂà¶çêëèïî‗À§",
      "ÉÈÊôËÏûù¤ÔÜ¢£ÙÛƒ",
      "¦\u00B4óú\u00A8\u00B8³\u00AFÎ⌐¬½¼¾«»",
      "░▒▓│┤╡╢╖╕╣║╗╝╜╛┐",
      "└┴┬├─┼╞╟╚╔╩╦╠═╬╧",
      "╨╤╥╙╘╒╓╫╪┘┌█▄▌▐▀",
      "αßΓπΣσµτΦΘΩδ∞φε∩",
      "≡±≥≤⌠⌡÷≈°∙·√\u207F²■\u00A0"]⟩

/-- Nordic. -/
def page865 : Charset :=
  ⟨"cp865",
    ["865", "csibm865", "ibm865"],
    .ofRows [
      "ÇüéâäàåçêëèïîìÄÅ",
      "ÉæÆôöòûùÿÖÜø£Ø₧ƒ",
      "áíóúñÑªº¿⌐¬½¼¡«¤",
      "░▒▓│┤╡╢╖╕╣║╗╝╜╛┐",
      "└┴┬├─┼╞╟╚╔╩╦╠═╬╧",
      "╨╤╥╙╘╒╓╫╪┘┌█▄▌▐▀",
      "αßΓπΣσµτΦΘΩδ∞φε∩",
      "≡±≥≤⌠⌡÷≈°∙·√\u207F²■\u00A0"]⟩

/-- Russian. -/
def page866 : Charset :=
  ⟨"cp866",
    ["866", "csibm866", "ibm866"],
    .ofRows [
      "АБВГДЕЖЗИЙКЛМНОП",
      "РСТУФХЦЧШЩЪЫЬЭЮЯ",
      "абвгдежзийклмноп",
      "░▒▓│┤╡╢╖╕╣║╗╝╜╛┐",
      "└┴┬├─┼╞╟╚╔╩╦╠═╬╧",
      "╨╤╥╙╘╒╓╫╪┘┌█▄▌▐▀",
      "рстуфхцчшщъыьэюя",
      "ЁёЄєЇїЎў°∙·√№¤■\u00A0"]⟩

/-- Greek with accents. -/
def page869 : Charset :=
  ⟨"cp869",
    ["869", "cp_gr", "csibm869", "ibm869"],
    .ofRows [
      "      Ά ·¬¦‘’Έ―Ή",
      "ΊΪΌ  ΎΫ©Ώ²³ά£έήί",
      "ϊΐόύΑΒΓΔΕΖΗ½ΘΙ«»",
      "░▒▓│┤ΚΛΜΝ╣║╗╝ΞΟ┐",
      "└┴┬├─┼ΠΡ╚╔╩╦╠═╬Σ",
      "ΤΥΦΧΨΩαβγ┘┌█▄δε▀",
      "ζηθικλμνξοπρσςτ\u0384",
      "\u00AD±υφχ§ψ\u0385°\u00A8ωϋΰώ■\u00A0"]⟩

/-- Ukrainian. -/
def page1125 : Charset :=
  ⟨"cp1125",
    ["1125", "ibm1125", "cp866u", "ruscii"],
    .ofRows [
      "АБВГДЕЖЗИЙКЛМНОП",
      "РСТУФХЦЧШЩЪЫЬЭЮЯ",
      "абвгдежзийклмноп",
      "░▒▓│┤╡╢╖╕╣║╗╝╜╛┐",
      "└┴┬├─┼╞╟╚╔╩╦╠═╬╧",
      "╨╤╥╙╘╒╓╫╪┘┌█▄▌▐▀",
      "рстуфхцчшщъыьэюя",
      "ЁёҐґЄєІіЇї·√№¤■\u00A0"]⟩

def all : List Charset :=
  [page437, page720, page737, page775, page850, page852, page855, page856, page857, page858,
    page860, page861, page862, page863, page865, page866, page869, page1125]

end Scaffold.Charset.Dos
