/-!
# Code pages

An encoding of one octet for each character is given by the characters of its
octets in order.  A page of 128 characters is for the octets from 128 on, the
others being ASCII; a page of 256 characters is for all.  The character U+FFFD
stands for an octet that encodes nothing.
-/

namespace PolicyKeeper

def codePages : List (String × String) :=
  [
    ("charmap",
      "\u0080\u0081\u0082\u0083\u0084\u0085\u0086\u0087\u0088\u0089\u008a\u008b\u008c\u008d" ++
        "\u008e\u008f\u0090\u0091\u0092\u0093\u0094\u0095\u0096\u0097\u0098\u0099\u009a\u009b" ++
        "\u009c\u009d\u009e\u009f\u00a0\u00a1\u00a2\u00a3\u00a4\u00a5\u00a6\u00a7\u00a8\u00a9ª" ++
        "\u00ab\u00ac\u00ad\u00ae\u00af\u00b0\u00b1\u00b2\u00b3\u00b4µ\u00b6\u00b7\u00b8\u00b9º" ++
        "\u00bb\u00bc\u00bd\u00be\u00bfÀÁÂÃÄÅÆÇÈÉÊËÌÍÎÏÐÑÒÓÔÕÖ\u00d7ØÙÚÛÜÝÞßàáâãäåæçèéêëìíîïðñò" ++
        "óôõö\u00f7øùúûüýþÿ"),
    ("037 cp037 csibm037 ebcdic_cp_ca ebcdic_cp_nl ebcdic_cp_us ebcdic_cp_wt ibm037 ibm039",
      "\x00\x01\x02\x03\u009c\x09\u0086\x7f\u0097\u008d\u008e\x0b\x0c\x0d\x0e\x0f\x10\x11\x12" ++
        "\x13\u009d\u0085\x08\u0087\x18\x19\u0092\u008f\x1c\x1d\x1e\x1f\u0080\u0081\u0082\u0083" ++
        "\u0084\x0a\x17\x1b\u0088\u0089\u008a\u008b\u008c\x05\x06\x07\u0090\u0091\x16\u0093" ++
        "\u0094\u0095\u0096\x04\u0098\u0099\u009a\u009b\x14\x15\u009e\x1a\x20\u00a0âäàáãåçñ" ++
        "\u00a2\x2e\x3c\x28\x2b\x7c\x26éêëèíîïìß\x21\x24\x2a\x29\x3b\u00ac\x2d\x2fÂÄÀÁÃÅÇÑ" ++
        "\u00a6\x2c\x25\x5f\x3e\x3føÉÊËÈÍÎÏÌ\x60\x3a\x23\x40\x27\x3d\x22Øabcdefghi\u00ab\u00bbð" ++
        "ýþ\u00b1\u00b0jklmnopqrªºæ\u00b8Æ\u00a4µ\x7estuvwxyz\u00a1\u00bfÐÝÞ\u00ae\x5e\u00a3" ++
        "\u00a5\u00b7\u00a9\u00a7\u00b6\u00bc\u00bd\u00be\x5b\x5d\u00af\u00a8\u00b4\u00d7\x7bAB" ++
        "CDEFGHI\u00adôöòóõ\x7dJKLMNOPQR\u00b9ûüùúÿ\x5c\u00f7STUVWXYZ\u00b2ÔÖÒÓÕ0123456789" ++
        "\u00b3ÛÜÙÚ\u009f"),
    ("cp1006",
      "\u0080\u0081\u0082\u0083\u0084\u0085\u0086\u0087\u0088\u0089\u008a\u008b\u008c\u008d" ++
        "\u008e\u008f\u0090\u0091\u0092\u0093\u0094\u0095\u0096\u0097\u0098\u0099\u009a\u009b" ++
        "\u009c\u009d\u009e\u009f\u00a0\u06f0\u06f1\u06f2\u06f3\u06f4\u06f5\u06f6\u06f7\u06f8" ++
        "\u06f9\u060c\u061b\u00ad\u061f\ufe81\ufe8d\ufe8e\ufe8e\ufe8f\ufe91\ufb56\ufb58\ufe93" ++
        "\ufe95\ufe97\ufb66\ufb68\ufe99\ufe9b\ufe9d\ufe9f\ufb7a\ufb7c\ufea1\ufea3\ufea5\ufea7" ++
        "\ufea9\ufb84\ufeab\ufead\ufb8c\ufeaf\ufb8a\ufeb1\ufeb3\ufeb5\ufeb7\ufeb9\ufebb\ufebd" ++
        "\ufebf\ufec1\ufec5\ufec9\ufeca\ufecb\ufecc\ufecd\ufece\ufecf\ufed0\ufed1\ufed3\ufed5" ++
        "\ufed7\ufed9\ufedb\ufb92\ufb94\ufedd\ufedf\ufee0\ufee1\ufee3\ufb9e\ufee5\ufee7\ufe85" ++
        "\ufeed\ufba6\ufba8\ufba9\ufbaa\ufe80\ufe89\ufe8a\ufe8b\ufef1\ufef2\ufef3\ufbb0\ufbae" ++
        "\ufe7c\ufe7d"),
    ("1026 cp1026 csibm1026 ibm1026",
      "\x00\x01\x02\x03\u009c\x09\u0086\x7f\u0097\u008d\u008e\x0b\x0c\x0d\x0e\x0f\x10\x11\x12" ++
        "\x13\u009d\u0085\x08\u0087\x18\x19\u0092\u008f\x1c\x1d\x1e\x1f\u0080\u0081\u0082\u0083" ++
        "\u0084\x0a\x17\x1b\u0088\u0089\u008a\u008b\u008c\x05\x06\x07\u0090\u0091\x16\u0093" ++
        "\u0094\u0095\u0096\x04\u0098\u0099\u009a\u009b\x14\x15\u009e\x1a\x20\u00a0âäàáãå\x7bñÇ" ++
        "\x2e\x3c\x28\x2b\x21\x26éêëèíîïìßĞİ\x2a\x29\x3b\x5e\x2d\x2fÂÄÀÁÃÅ\x5bÑş\x2c\x25\x5f" ++
        "\x3e\x3føÉÊËÈÍÎÏÌı\x3aÖŞ\x27\x3dÜØabcdefghi\u00ab\u00bb\x7d\x60\u00a6\u00b1\u00b0jklmn" ++
        "opqrªºæ\u00b8Æ\u00a4µöstuvwxyz\u00a1\u00bf\x5d\x24\x40\u00ae\u00a2\u00a3\u00a5\u00b7" ++
        "\u00a9\u00a7\u00b6\u00bc\u00bd\u00be\u00ac\x7c\u00af\u00a8\u00b4\u00d7çABCDEFGHI\u00ad" ++
        "ô\x7eòóõğJKLMNOPQR\u00b9û\x5cùúÿü\u00f7STUVWXYZ\u00b2Ô\x23ÒÓÕ0123456789\u00b3Û\x22ÙÚ" ++
        "\u009f"),
    ("1125 cp1125 cp866u ibm1125 ruscii",
      "АБВГДЕЖЗИЙКЛМНОПРСТУФХЦЧШЩЪЫЬЭЮЯабвгдежзийклмноп\u2591\u2592\u2593\u2502\u2524\u2561" ++
        "\u2562\u2556\u2555\u2563\u2551\u2557\u255d\u255c\u255b\u2510\u2514\u2534\u252c\u251c" ++
        "\u2500\u253c\u255e\u255f\u255a\u2554\u2569\u2566\u2560\u2550\u256c\u2567\u2568\u2564" ++
        "\u2565\u2559\u2558\u2552\u2553\u256b\u256a\u2518\u250c\u2588\u2584\u258c\u2590\u2580рс" ++
        "туфхцчшщъыьэюяЁёҐґЄєІіЇї\u00b7\u221a\u2116\u00a4\u25a0\u00a0"),
    ("1140 cp1140 ibm1140",
      "\x00\x01\x02\x03\u009c\x09\u0086\x7f\u0097\u008d\u008e\x0b\x0c\x0d\x0e\x0f\x10\x11\x12" ++
        "\x13\u009d\u0085\x08\u0087\x18\x19\u0092\u008f\x1c\x1d\x1e\x1f\u0080\u0081\u0082\u0083" ++
        "\u0084\x0a\x17\x1b\u0088\u0089\u008a\u008b\u008c\x05\x06\x07\u0090\u0091\x16\u0093" ++
        "\u0094\u0095\u0096\x04\u0098\u0099\u009a\u009b\x14\x15\u009e\x1a\x20\u00a0âäàáãåçñ" ++
        "\u00a2\x2e\x3c\x28\x2b\x7c\x26éêëèíîïìß\x21\x24\x2a\x29\x3b\u00ac\x2d\x2fÂÄÀÁÃÅÇÑ" ++
        "\u00a6\x2c\x25\x5f\x3e\x3føÉÊËÈÍÎÏÌ\x60\x3a\x23\x40\x27\x3d\x22Øabcdefghi\u00ab\u00bbð" ++
        "ýþ\u00b1\u00b0jklmnopqrªºæ\u00b8Æ\u20acµ\x7estuvwxyz\u00a1\u00bfÐÝÞ\u00ae\x5e\u00a3" ++
        "\u00a5\u00b7\u00a9\u00a7\u00b6\u00bc\u00bd\u00be\x5b\x5d\u00af\u00a8\u00b4\u00d7\x7bAB" ++
        "CDEFGHI\u00adôöòóõ\x7dJKLMNOPQR\u00b9ûüùúÿ\x5c\u00f7STUVWXYZ\u00b2ÔÖÒÓÕ0123456789" ++
        "\u00b3ÛÜÙÚ\u009f"),
    ("1250 cp1250 windows_1250",
      "\u20ac\ufffd\u201a\ufffd\u201e\u2026\u2020\u2021\ufffd\u2030Š\u2039ŚŤŽŹ\ufffd\u2018" ++
        "\u2019\u201c\u201d\u2022\u2013\u2014\ufffd\u2122š\u203aśťžź\u00a0\u02c7\u02d8Ł\u00a4Ą" ++
        "\u00a6\u00a7\u00a8\u00a9Ş\u00ab\u00ac\u00ad\u00aeŻ\u00b0\u00b1\u02dbł\u00b4µ\u00b6" ++
        "\u00b7\u00b8ąş\u00bbĽ\u02ddľżŔÁÂĂÄĹĆÇČÉĘËĚÍÎĎĐŃŇÓÔŐÖ\u00d7ŘŮÚŰÜÝŢßŕáâăäĺćçčéęëěíîďđńňó" ++
        "ôőö\u00f7řůúűüýţ\u02d9"),
    ("1251 cp1251 windows_1251",
      "ЂЃ\u201aѓ\u201e\u2026\u2020\u2021\u20ac\u2030Љ\u2039ЊЌЋЏђ\u2018\u2019\u201c\u201d\u2022" ++
        "\u2013\u2014\ufffd\u2122љ\u203aњќћџ\u00a0ЎўЈ\u00a4Ґ\u00a6\u00a7Ё\u00a9Є\u00ab\u00ac" ++
        "\u00ad\u00aeЇ\u00b0\u00b1Ііґµ\u00b6\u00b7ё\u2116є\u00bbјЅѕїАБВГДЕЖЗИЙКЛМНОПРСТУФХЦЧШЩЪ" ++
        "ЫЬЭЮЯабвгдежзийклмнопрстуфхцчшщъыьэюя"),
    ("1252 cp1252 windows_1252",
      "\u20ac\ufffd\u201aƒ\u201e\u2026\u2020\u2021\u02c6\u2030Š\u2039Œ\ufffdŽ\ufffd\ufffd\u2018" ++
        "\u2019\u201c\u201d\u2022\u2013\u2014\u02dc\u2122š\u203aœ\ufffdžŸ\u00a0\u00a1\u00a2" ++
        "\u00a3\u00a4\u00a5\u00a6\u00a7\u00a8\u00a9ª\u00ab\u00ac\u00ad\u00ae\u00af\u00b0\u00b1" ++
        "\u00b2\u00b3\u00b4µ\u00b6\u00b7\u00b8\u00b9º\u00bb\u00bc\u00bd\u00be\u00bfÀÁÂÃÄÅÆÇÈÉÊË" ++
        "ÌÍÎÏÐÑÒÓÔÕÖ\u00d7ØÙÚÛÜÝÞßàáâãäåæçèéêëìíîïðñòóôõö\u00f7øùúûüýþÿ"),
    ("1253 cp1253 windows_1253",
      "\u20ac\ufffd\u201aƒ\u201e\u2026\u2020\u2021\ufffd\u2030\ufffd\u2039\ufffd\ufffd\ufffd" ++
        "\ufffd\ufffd\u2018\u2019\u201c\u201d\u2022\u2013\u2014\ufffd\u2122\ufffd\u203a\ufffd" ++
        "\ufffd\ufffd\ufffd\u00a0\u0385Ά\u00a3\u00a4\u00a5\u00a6\u00a7\u00a8\u00a9\ufffd\u00ab" ++
        "\u00ac\u00ad\u00ae\u2015\u00b0\u00b1\u00b2\u00b3\u0384µ\u00b6\u00b7ΈΉΊ\u00bbΌ\u00bdΎΏΐ" ++
        "ΑΒΓΔΕΖΗΘΙΚΛΜΝΞΟΠΡ\ufffdΣΤΥΦΧΨΩΪΫάέήίΰαβγδεζηθικλμνξοπρςστυφχψωϊϋόύώ\ufffd"),
    ("1254 cp1254 windows_1254",
      "\u20ac\ufffd\u201aƒ\u201e\u2026\u2020\u2021\u02c6\u2030Š\u2039Œ\ufffd\ufffd\ufffd\ufffd" ++
        "\u2018\u2019\u201c\u201d\u2022\u2013\u2014\u02dc\u2122š\u203aœ\ufffd\ufffdŸ\u00a0" ++
        "\u00a1\u00a2\u00a3\u00a4\u00a5\u00a6\u00a7\u00a8\u00a9ª\u00ab\u00ac\u00ad\u00ae\u00af" ++
        "\u00b0\u00b1\u00b2\u00b3\u00b4µ\u00b6\u00b7\u00b8\u00b9º\u00bb\u00bc\u00bd\u00be\u00bf" ++
        "ÀÁÂÃÄÅÆÇÈÉÊËÌÍÎÏĞÑÒÓÔÕÖ\u00d7ØÙÚÛÜİŞßàáâãäåæçèéêëìíîïğñòóôõö\u00f7øùúûüışÿ"),
    ("1255 cp1255 windows_1255",
      "\u20ac\ufffd\u201aƒ\u201e\u2026\u2020\u2021\u02c6\u2030\ufffd\u2039\ufffd\ufffd\ufffd" ++
        "\ufffd\ufffd\u2018\u2019\u201c\u201d\u2022\u2013\u2014\u02dc\u2122\ufffd\u203a\ufffd" ++
        "\ufffd\ufffd\ufffd\u00a0\u00a1\u00a2\u00a3\u20aa\u00a5\u00a6\u00a7\u00a8\u00a9\u00d7" ++
        "\u00ab\u00ac\u00ad\u00ae\u00af\u00b0\u00b1\u00b2\u00b3\u00b4µ\u00b6\u00b7\u00b8\u00b9" ++
        "\u00f7\u00bb\u00bc\u00bd\u00be\u00bf\u05b0\u05b1\u05b2\u05b3\u05b4\u05b5\u05b6\u05b7" ++
        "\u05b8\u05b9\ufffd\u05bb\u05bc\u05bd\u05be\u05bf\u05c0\u05c1\u05c2\u05c3\u05f0\u05f1" ++
        "\u05f2\u05f3\u05f4\ufffd\ufffd\ufffd\ufffd\ufffd\ufffd\ufffd\u05d0\u05d1\u05d2\u05d3" ++
        "\u05d4\u05d5\u05d6\u05d7\u05d8\u05d9\u05da\u05db\u05dc\u05dd\u05de\u05df\u05e0\u05e1" ++
        "\u05e2\u05e3\u05e4\u05e5\u05e6\u05e7\u05e8\u05e9\u05ea\ufffd\ufffd\u200e\u200f\ufffd"),
    ("1256 cp1256 windows_1256",
      "\u20ac\u067e\u201aƒ\u201e\u2026\u2020\u2021\u02c6\u2030\u0679\u2039Œ\u0686\u0698\u0688" ++
        "\u06af\u2018\u2019\u201c\u201d\u2022\u2013\u2014\u06a9\u2122\u0691\u203aœ\u200c\u200d" ++
        "\u06ba\u00a0\u060c\u00a2\u00a3\u00a4\u00a5\u00a6\u00a7\u00a8\u00a9\u06be\u00ab\u00ac" ++
        "\u00ad\u00ae\u00af\u00b0\u00b1\u00b2\u00b3\u00b4µ\u00b6\u00b7\u00b8\u00b9\u061b\u00bb" ++
        "\u00bc\u00bd\u00be\u061f\u06c1\u0621\u0622\u0623\u0624\u0625\u0626\u0627\u0628\u0629" ++
        "\u062a\u062b\u062c\u062d\u062e\u062f\u0630\u0631\u0632\u0633\u0634\u0635\u0636\u00d7" ++
        "\u0637\u0638\u0639\u063a\u0640\u0641\u0642\u0643à\u0644â\u0645\u0646\u0647\u0648çèéêë" ++
        "\u0649\u064aîï\u064b\u064c\u064d\u064eô\u064f\u0650\u00f7\u0651ù\u0652ûü\u200e\u200f" ++
        "\u06d2"),
    ("1257 cp1257 windows_1257",
      "\u20ac\ufffd\u201a\ufffd\u201e\u2026\u2020\u2021\ufffd\u2030\ufffd\u2039\ufffd\u00a8" ++
        "\u02c7\u00b8\ufffd\u2018\u2019\u201c\u201d\u2022\u2013\u2014\ufffd\u2122\ufffd\u203a" ++
        "\ufffd\u00af\u02db\ufffd\u00a0\ufffd\u00a2\u00a3\u00a4\ufffd\u00a6\u00a7Ø\u00a9Ŗ\u00ab" ++
        "\u00ac\u00ad\u00aeÆ\u00b0\u00b1\u00b2\u00b3\u00b4µ\u00b6\u00b7ø\u00b9ŗ\u00bb\u00bc" ++
        "\u00bd\u00beæĄĮĀĆÄÅĘĒČÉŹĖĢĶĪĻŠŃŅÓŌÕÖ\u00d7ŲŁŚŪÜŻŽßąįāćäåęēčéźėģķīļšńņóōõö\u00f7ųłśūüżž" ++
        "\u02d9"),
    ("1258 cp1258 windows_1258",
      "\u20ac\ufffd\u201aƒ\u201e\u2026\u2020\u2021\u02c6\u2030\ufffd\u2039Œ\ufffd\ufffd\ufffd" ++
        "\ufffd\u2018\u2019\u201c\u201d\u2022\u2013\u2014\u02dc\u2122\ufffd\u203aœ\ufffd\ufffdŸ" ++
        "\u00a0\u00a1\u00a2\u00a3\u00a4\u00a5\u00a6\u00a7\u00a8\u00a9ª\u00ab\u00ac\u00ad\u00ae" ++
        "\u00af\u00b0\u00b1\u00b2\u00b3\u00b4µ\u00b6\u00b7\u00b8\u00b9º\u00bb\u00bc\u00bd\u00be" ++
        "\u00bfÀÁÂĂÄÅÆÇÈÉÊË\u0300ÍÎÏĐÑ\u0309ÓÔƠÖ\u00d7ØÙÚÛÜƯ\u0303ßàáâăäåæçèéêë\u0301íîïđñ" ++
        "\u0323óôơö\u00f7øùúûüư\u20abÿ"),
    ("273 cp273 csibm273 ibm273",
      "\x00\x01\x02\x03\u009c\x09\u0086\x7f\u0097\u008d\u008e\x0b\x0c\x0d\x0e\x0f\x10\x11\x12" ++
        "\x13\u009d\u0085\x08\u0087\x18\x19\u0092\u008f\x1c\x1d\x1e\x1f\u0080\u0081\u0082\u0083" ++
        "\u0084\x0a\x17\x1b\u0088\u0089\u008a\u008b\u008c\x05\x06\x07\u0090\u0091\x16\u0093" ++
        "\u0094\u0095\u0096\x04\u0098\u0099\u009a\u009b\x14\x15\u009e\x1a\x20\u00a0â\x7bàáãåçñÄ" ++
        "\x2e\x3c\x28\x2b\x21\x26éêëèíîïì\x7eÜ\x24\x2a\x29\x3b\x5e\x2d\x2fÂ\x5bÀÁÃÅÇÑö\x2c\x25" ++
        "\x5f\x3e\x3føÉÊËÈÍÎÏÌ\x60\x3a\x23\u00a7\x27\x3d\x22Øabcdefghi\u00ab\u00bbðýþ\u00b1" ++
        "\u00b0jklmnopqrªºæ\u00b8Æ\u00a4µßstuvwxyz\u00a1\u00bfÐÝÞ\u00ae\u00a2\u00a3\u00a5\u00b7" ++
        "\u00a9\x40\u00b6\u00bc\u00bd\u00be\u00ac\x7c\u203e\u00a8\u00b4\u00d7äABCDEFGHI\u00adô" ++
        "\u00a6òóõüJKLMNOPQR\u00b9û\x7dùúÿÖ\u00f7STUVWXYZ\u00b2Ô\x5cÒÓÕ0123456789\u00b3Û\x5dÙÚ" ++
        "\u009f"),
    ("424 cp424 csibm424 ebcdic_cp_he ibm424",
      "\x00\x01\x02\x03\u009c\x09\u0086\x7f\u0097\u008d\u008e\x0b\x0c\x0d\x0e\x0f\x10\x11\x12" ++
        "\x13\u009d\u0085\x08\u0087\x18\x19\u0092\u008f\x1c\x1d\x1e\x1f\u0080\u0081\u0082\u0083" ++
        "\u0084\x0a\x17\x1b\u0088\u0089\u008a\u008b\u008c\x05\x06\x07\u0090\u0091\x16\u0093" ++
        "\u0094\u0095\u0096\x04\u0098\u0099\u009a\u009b\x14\x15\u009e\x1a\x20\u05d0\u05d1\u05d2" ++
        "\u05d3\u05d4\u05d5\u05d6\u05d7\u05d8\u00a2\x2e\x3c\x28\x2b\x7c\x26\u05d9\u05da\u05db" ++
        "\u05dc\u05dd\u05de\u05df\u05e0\u05e1\x21\x24\x2a\x29\x3b\u00ac\x2d\x2f\u05e2\u05e3" ++
        "\u05e4\u05e5\u05e6\u05e7\u05e8\u05e9\u00a6\x2c\x25\x5f\x3e\x3f\ufffd\u05ea\ufffd\ufffd" ++
        "\u00a0\ufffd\ufffd\ufffd\u2017\x60\x3a\x23\x40\x27\x3d\x22\ufffdabcdefghi\u00ab\u00bb" ++
        "\ufffd\ufffd\ufffd\u00b1\u00b0jklmnopqr\ufffd\ufffd\ufffd\u00b8\ufffd\u00a4µ\x7estuvwx" ++
        "yz\ufffd\ufffd\ufffd\ufffd\ufffd\u00ae\x5e\u00a3\u00a5\u00b7\u00a9\u00a7\u00b6\u00bc" ++
        "\u00bd\u00be\x5b\x5d\u00af\u00a8\u00b4\u00d7\x7bABCDEFGHI\u00ad\ufffd\ufffd\ufffd" ++
        "\ufffd\ufffd\x7dJKLMNOPQR\u00b9\ufffd\ufffd\ufffd\ufffd\ufffd\x5c\u00f7STUVWXYZ\u00b2" ++
        "\ufffd\ufffd\ufffd\ufffd\ufffd0123456789\u00b3\ufffd\ufffd\ufffd\ufffd\u009f"),
    ("437 cp437 cspc8codepage437 ibm437",
      "ÇüéâäàåçêëèïîìÄÅÉæÆôöòûùÿÖÜ\u00a2\u00a3\u00a5\u20a7ƒáíóúñÑªº\u00bf\u2310\u00ac\u00bd" ++
        "\u00bc\u00a1\u00ab\u00bb\u2591\u2592\u2593\u2502\u2524\u2561\u2562\u2556\u2555\u2563" ++
        "\u2551\u2557\u255d\u255c\u255b\u2510\u2514\u2534\u252c\u251c\u2500\u253c\u255e\u255f" ++
        "\u255a\u2554\u2569\u2566\u2560\u2550\u256c\u2567\u2568\u2564\u2565\u2559\u2558\u2552" ++
        "\u2553\u256b\u256a\u2518\u250c\u2588\u2584\u258c\u2590\u2580αßΓπΣσµτΦΘΩδ\u221eφε\u2229" ++
        "\u2261\u00b1\u2265\u2264\u2320\u2321\u00f7\u2248\u00b0\u2219\u00b7\u221aⁿ\u00b2\u25a0" ++
        "\u00a0"),
    ("500 cp500 csibm500 ebcdic_cp_be ebcdic_cp_ch ibm500",
      "\x00\x01\x02\x03\u009c\x09\u0086\x7f\u0097\u008d\u008e\x0b\x0c\x0d\x0e\x0f\x10\x11\x12" ++
        "\x13\u009d\u0085\x08\u0087\x18\x19\u0092\u008f\x1c\x1d\x1e\x1f\u0080\u0081\u0082\u0083" ++
        "\u0084\x0a\x17\x1b\u0088\u0089\u008a\u008b\u008c\x05\x06\x07\u0090\u0091\x16\u0093" ++
        "\u0094\u0095\u0096\x04\u0098\u0099\u009a\u009b\x14\x15\u009e\x1a\x20\u00a0âäàáãåçñ\x5b" ++
        "\x2e\x3c\x28\x2b\x21\x26éêëèíîïìß\x5d\x24\x2a\x29\x3b\x5e\x2d\x2fÂÄÀÁÃÅÇÑ\u00a6\x2c" ++
        "\x25\x5f\x3e\x3føÉÊËÈÍÎÏÌ\x60\x3a\x23\x40\x27\x3d\x22Øabcdefghi\u00ab\u00bbðýþ\u00b1" ++
        "\u00b0jklmnopqrªºæ\u00b8Æ\u00a4µ\x7estuvwxyz\u00a1\u00bfÐÝÞ\u00ae\u00a2\u00a3\u00a5" ++
        "\u00b7\u00a9\u00a7\u00b6\u00bc\u00bd\u00be\u00ac\x7c\u00af\u00a8\u00b4\u00d7\x7bABCDEF" ++
        "GHI\u00adôöòóõ\x7dJKLMNOPQR\u00b9ûüùúÿ\x5c\u00f7STUVWXYZ\u00b2ÔÖÒÓÕ0123456789\u00b3ÛÜÙ" ++
        "Ú\u009f"),
    ("cp720",
      "\u0080\u0081éâ\u0084à\u0086çêëèïî\u008d\u008e\u008f\u0090\u0651\u0652ô\u00a4\u0640ûù" ++
        "\u0621\u0622\u0623\u0624\u00a3\u0625\u0626\u0627\u0628\u0629\u062a\u062b\u062c\u062d" ++
        "\u062e\u062f\u0630\u0631\u0632\u0633\u0634\u0635\u00ab\u00bb\u2591\u2592\u2593\u2502" ++
        "\u2524\u2561\u2562\u2556\u2555\u2563\u2551\u2557\u255d\u255c\u255b\u2510\u2514\u2534" ++
        "\u252c\u251c\u2500\u253c\u255e\u255f\u255a\u2554\u2569\u2566\u2560\u2550\u256c\u2567" ++
        "\u2568\u2564\u2565\u2559\u2558\u2552\u2553\u256b\u256a\u2518\u250c\u2588\u2584\u258c" ++
        "\u2590\u2580\u0636\u0637\u0638\u0639\u063a\u0641µ\u0642\u0643\u0644\u0645\u0646\u0647" ++
        "\u0648\u0649\u064a\u2261\u064b\u064c\u064d\u064e\u064f\u0650\u2248\u00b0\u2219\u00b7" ++
        "\u221aⁿ\u00b2\u25a0\u00a0"),
    ("cp737",
      "ΑΒΓΔΕΖΗΘΙΚΛΜΝΞΟΠΡΣΤΥΦΧΨΩαβγδεζηθικλμνξοπρσςτυφχψ\u2591\u2592\u2593\u2502\u2524\u2561" ++
        "\u2562\u2556\u2555\u2563\u2551\u2557\u255d\u255c\u255b\u2510\u2514\u2534\u252c\u251c" ++
        "\u2500\u253c\u255e\u255f\u255a\u2554\u2569\u2566\u2560\u2550\u256c\u2567\u2568\u2564" ++
        "\u2565\u2559\u2558\u2552\u2553\u256b\u256a\u2518\u250c\u2588\u2584\u258c\u2590\u2580ωά" ++
        "έήϊίόύϋώΆΈΉΊΌΎΏ\u00b1\u2265\u2264ΪΫ\u00f7\u2248\u00b0\u2219\u00b7\u221aⁿ\u00b2\u25a0" ++
        "\u00a0"),
    ("775 cp775 cspc775baltic ibm775",
      "ĆüéāäģåćłēŖŗīŹÄÅÉæÆōöĢ\u00a2ŚśÖÜø\u00a3Ø\u00d7\u00a4ĀĪóŻżź\u201d\u00a6\u00a9\u00ae\u00ac" ++
        "\u00bd\u00bcŁ\u00ab\u00bb\u2591\u2592\u2593\u2502\u2524ĄČĘĖ\u2563\u2551\u2557\u255dĮŠ" ++
        "\u2510\u2514\u2534\u252c\u251c\u2500\u253cŲŪ\u255a\u2554\u2569\u2566\u2560\u2550\u256c" ++
        "Žąčęėįšųūž\u2518\u250c\u2588\u2584\u258c\u2590\u2580ÓßŌŃõÕµńĶķĻļņĒŅ\u2019\u00ad\u00b1" ++
        "\u201c\u00be\u00b6\u00a7\u00f7\u201e\u00b0\u2219\u00b7\u00b9\u00b3\u00b2\u25a0\u00a0"),
    ("850 cp850 cspc850multilingual ibm850",
      "ÇüéâäàåçêëèïîìÄÅÉæÆôöòûùÿÖÜø\u00a3Ø\u00d7ƒáíóúñÑªº\u00bf\u00ae\u00ac\u00bd\u00bc\u00a1" ++
        "\u00ab\u00bb\u2591\u2592\u2593\u2502\u2524ÁÂÀ\u00a9\u2563\u2551\u2557\u255d\u00a2" ++
        "\u00a5\u2510\u2514\u2534\u252c\u251c\u2500\u253cãÃ\u255a\u2554\u2569\u2566\u2560\u2550" ++
        "\u256c\u00a4ðÐÊËÈıÍÎÏ\u2518\u250c\u2588\u2584\u00a6Ì\u2580ÓßÔÒõÕµþÞÚÛÙýÝ\u00af\u00b4" ++
        "\u00ad\u00b1\u2017\u00be\u00b6\u00a7\u00f7\u00b8\u00b0\u00a8\u00b7\u00b9\u00b3\u00b2" ++
        "\u25a0\u00a0"),
    ("852 cp852 cspcp852 ibm852",
      "ÇüéâäůćçłëŐőîŹÄĆÉĹĺôöĽľŚśÖÜŤťŁ\u00d7čáíóúĄąŽžĘę\u00acźČş\u00ab\u00bb\u2591\u2592\u2593" ++
        "\u2502\u2524ÁÂĚŞ\u2563\u2551\u2557\u255dŻż\u2510\u2514\u2534\u252c\u251c\u2500\u253cĂă" ++
        "\u255a\u2554\u2569\u2566\u2560\u2550\u256c\u00a4đĐĎËďŇÍÎě\u2518\u250c\u2588\u2584ŢŮ" ++
        "\u2580ÓßÔŃńňŠšŔÚŕŰýÝţ\u00b4\u00ad\u02dd\u02db\u02c7\u02d8\u00a7\u00f7\u00b8\u00b0" ++
        "\u00a8\u02d9űŘř\u25a0\u00a0"),
    ("855 cp855 csibm855 ibm855",
      "ђЂѓЃёЁєЄѕЅіІїЇјЈљЉњЊћЋќЌўЎџЏюЮъЪаАбБцЦдДеЕфФгГ\u00ab\u00bb\u2591\u2592\u2593\u2502\u2524" ++
        "хХиИ\u2563\u2551\u2557\u255dйЙ\u2510\u2514\u2534\u252c\u251c\u2500\u253cкК\u255a\u2554" ++
        "\u2569\u2566\u2560\u2550\u256c\u00a4лЛмМнНоОп\u2518\u250c\u2588\u2584Пя\u2580ЯрРсСтТуУ" ++
        "жЖвВьЬ\u2116\u00adыЫзЗшШэЭщЩчЧ\u00a7\u25a0\u00a0"),
    ("cp856",
      "\u05d0\u05d1\u05d2\u05d3\u05d4\u05d5\u05d6\u05d7\u05d8\u05d9\u05da\u05db\u05dc\u05dd" ++
        "\u05de\u05df\u05e0\u05e1\u05e2\u05e3\u05e4\u05e5\u05e6\u05e7\u05e8\u05e9\u05ea\ufffd" ++
        "\u00a3\ufffd\u00d7\ufffd\ufffd\ufffd\ufffd\ufffd\ufffd\ufffd\ufffd\ufffd\ufffd\u00ae" ++
        "\u00ac\u00bd\u00bc\ufffd\u00ab\u00bb\u2591\u2592\u2593\u2502\u2524\ufffd\ufffd\ufffd" ++
        "\u00a9\u2563\u2551\u2557\u255d\u00a2\u00a5\u2510\u2514\u2534\u252c\u251c\u2500\u253c" ++
        "\ufffd\ufffd\u255a\u2554\u2569\u2566\u2560\u2550\u256c\u00a4\ufffd\ufffd\ufffd\ufffd" ++
        "\ufffd\ufffd\ufffd\ufffd\ufffd\u2518\u250c\u2588\u2584\u00a6\ufffd\u2580\ufffd\ufffd" ++
        "\ufffd\ufffd\ufffd\ufffdµ\ufffd\ufffd\ufffd\ufffd\ufffd\ufffd\ufffd\u00af\u00b4\u00ad" ++
        "\u00b1\u2017\u00be\u00b6\u00a7\u00f7\u00b8\u00b0\u00a8\u00b7\u00b9\u00b3\u00b2\u25a0" ++
        "\u00a0"),
    ("857 cp857 csibm857 ibm857",
      "ÇüéâäàåçêëèïîıÄÅÉæÆôöòûùİÖÜø\u00a3ØŞşáíóúñÑĞğ\u00bf\u00ae\u00ac\u00bd\u00bc\u00a1\u00ab" ++
        "\u00bb\u2591\u2592\u2593\u2502\u2524ÁÂÀ\u00a9\u2563\u2551\u2557\u255d\u00a2\u00a5" ++
        "\u2510\u2514\u2534\u252c\u251c\u2500\u253cãÃ\u255a\u2554\u2569\u2566\u2560\u2550\u256c" ++
        "\u00a4ºªÊËÈ\ufffdÍÎÏ\u2518\u250c\u2588\u2584\u00a6Ì\u2580ÓßÔÒõÕµ\ufffd\u00d7ÚÛÙìÿ" ++
        "\u00af\u00b4\u00ad\u00b1\ufffd\u00be\u00b6\u00a7\u00f7\u00b8\u00b0\u00a8\u00b7\u00b9" ++
        "\u00b3\u00b2\u25a0\u00a0"),
    ("858 cp858 csibm858 ibm858",
      "ÇüéâäàåçêëèïîìÄÅÉæÆôöòûùÿÖÜø\u00a3Ø\u00d7ƒáíóúñÑªº\u00bf\u00ae\u00ac\u00bd\u00bc\u00a1" ++
        "\u00ab\u00bb\u2591\u2592\u2593\u2502\u2524ÁÂÀ\u00a9\u2563\u2551\u2557\u255d\u00a2" ++
        "\u00a5\u2510\u2514\u2534\u252c\u251c\u2500\u253cãÃ\u255a\u2554\u2569\u2566\u2560\u2550" ++
        "\u256c\u00a4ðÐÊËÈ\u20acÍÎÏ\u2518\u250c\u2588\u2584\u00a6Ì\u2580ÓßÔÒõÕµþÞÚÛÙýÝ\u00af" ++
        "\u00b4\u00ad\u00b1\u2017\u00be\u00b6\u00a7\u00f7\u00b8\u00b0\u00a8\u00b7\u00b9\u00b3" ++
        "\u00b2\u25a0\u00a0"),
    ("860 cp860 csibm860 ibm860",
      "ÇüéâãàÁçêÊèÍÔìÃÂÉÀÈôõòÚùÌÕÜ\u00a2\u00a3Ù\u20a7ÓáíóúñÑªº\u00bfÒ\u00ac\u00bd\u00bc\u00a1" ++
        "\u00ab\u00bb\u2591\u2592\u2593\u2502\u2524\u2561\u2562\u2556\u2555\u2563\u2551\u2557" ++
        "\u255d\u255c\u255b\u2510\u2514\u2534\u252c\u251c\u2500\u253c\u255e\u255f\u255a\u2554" ++
        "\u2569\u2566\u2560\u2550\u256c\u2567\u2568\u2564\u2565\u2559\u2558\u2552\u2553\u256b" ++
        "\u256a\u2518\u250c\u2588\u2584\u258c\u2590\u2580αßΓπΣσµτΦΘΩδ\u221eφε\u2229\u2261\u00b1" ++
        "\u2265\u2264\u2320\u2321\u00f7\u2248\u00b0\u2219\u00b7\u221aⁿ\u00b2\u25a0\u00a0"),
    ("861 cp861 cp_is csibm861 ibm861",
      "ÇüéâäàåçêëèÐðÞÄÅÉæÆôöþûÝýÖÜø\u00a3Ø\u20a7ƒáíóúÁÍÓÚ\u00bf\u2310\u00ac\u00bd\u00bc\u00a1" ++
        "\u00ab\u00bb\u2591\u2592\u2593\u2502\u2524\u2561\u2562\u2556\u2555\u2563\u2551\u2557" ++
        "\u255d\u255c\u255b\u2510\u2514\u2534\u252c\u251c\u2500\u253c\u255e\u255f\u255a\u2554" ++
        "\u2569\u2566\u2560\u2550\u256c\u2567\u2568\u2564\u2565\u2559\u2558\u2552\u2553\u256b" ++
        "\u256a\u2518\u250c\u2588\u2584\u258c\u2590\u2580αßΓπΣσµτΦΘΩδ\u221eφε\u2229\u2261\u00b1" ++
        "\u2265\u2264\u2320\u2321\u00f7\u2248\u00b0\u2219\u00b7\u221aⁿ\u00b2\u25a0\u00a0"),
    ("862 cp862 cspc862latinhebrew ibm862",
      "\u05d0\u05d1\u05d2\u05d3\u05d4\u05d5\u05d6\u05d7\u05d8\u05d9\u05da\u05db\u05dc\u05dd" ++
        "\u05de\u05df\u05e0\u05e1\u05e2\u05e3\u05e4\u05e5\u05e6\u05e7\u05e8\u05e9\u05ea\u00a2" ++
        "\u00a3\u00a5\u20a7ƒáíóúñÑªº\u00bf\u2310\u00ac\u00bd\u00bc\u00a1\u00ab\u00bb\u2591" ++
        "\u2592\u2593\u2502\u2524\u2561\u2562\u2556\u2555\u2563\u2551\u2557\u255d\u255c\u255b" ++
        "\u2510\u2514\u2534\u252c\u251c\u2500\u253c\u255e\u255f\u255a\u2554\u2569\u2566\u2560" ++
        "\u2550\u256c\u2567\u2568\u2564\u2565\u2559\u2558\u2552\u2553\u256b\u256a\u2518\u250c" ++
        "\u2588\u2584\u258c\u2590\u2580αßΓπΣσµτΦΘΩδ\u221eφε\u2229\u2261\u00b1\u2265\u2264\u2320" ++
        "\u2321\u00f7\u2248\u00b0\u2219\u00b7\u221aⁿ\u00b2\u25a0\u00a0"),
    ("863 cp863 csibm863 ibm863",
      "ÇüéâÂà\u00b6çêëèïî\u2017À\u00a7ÉÈÊôËÏûù\u00a4ÔÜ\u00a2\u00a3ÙÛƒ\u00a6\u00b4óú\u00a8\u00b8" ++
        "\u00b3\u00afÎ\u2310\u00ac\u00bd\u00bc\u00be\u00ab\u00bb\u2591\u2592\u2593\u2502\u2524" ++
        "\u2561\u2562\u2556\u2555\u2563\u2551\u2557\u255d\u255c\u255b\u2510\u2514\u2534\u252c" ++
        "\u251c\u2500\u253c\u255e\u255f\u255a\u2554\u2569\u2566\u2560\u2550\u256c\u2567\u2568" ++
        "\u2564\u2565\u2559\u2558\u2552\u2553\u256b\u256a\u2518\u250c\u2588\u2584\u258c\u2590" ++
        "\u2580αßΓπΣσµτΦΘΩδ\u221eφε\u2229\u2261\u00b1\u2265\u2264\u2320\u2321\u00f7\u2248\u00b0" ++
        "\u2219\u00b7\u221aⁿ\u00b2\u25a0\u00a0"),
    ("864 cp864 csibm864 ibm864",
      "\x00\x01\x02\x03\x04\x05\x06\x07\x08\x09\x0a\x0b\x0c\x0d\x0e\x0f\x10\x11\x12\x13\x14\x15" ++
        "\x16\x17\x18\x19\x1a\x1b\x1c\x1d\x1e\x1f\x20\x21\x22\x23\x24\u066a\x26\x27\x28\x29\x2a" ++
        "\x2b\x2c\x2d\x2e\x2f0123456789\x3a\x3b\x3c\x3d\x3e\x3f\x40ABCDEFGHIJKLMNOPQRSTUVWXYZ" ++
        "\x5b\x5c\x5d\x5e\x5f\x60abcdefghijklmnopqrstuvwxyz\x7b\x7c\x7d\x7e\x7f\u00b0\u00b7" ++
        "\u2219\u221a\u2592\u2500\u2502\u253c\u2524\u252c\u251c\u2534\u2510\u250c\u2514\u2518β" ++
        "\u221eφ\u00b1\u00bd\u00bc\u2248\u00ab\u00bb\ufef7\ufef8\ufffd\ufffd\ufefb\ufefc\ufffd" ++
        "\u00a0\u00ad\ufe82\u00a3\u00a4\ufe84\ufffd\ufffd\ufe8e\ufe8f\ufe95\ufe99\u060c\ufe9d" ++
        "\ufea1\ufea5\u0660\u0661\u0662\u0663\u0664\u0665\u0666\u0667\u0668\u0669\ufed1\u061b" ++
        "\ufeb1\ufeb5\ufeb9\u061f\u00a2\ufe80\ufe81\ufe83\ufe85\ufeca\ufe8b\ufe8d\ufe91\ufe93" ++
        "\ufe97\ufe9b\ufe9f\ufea3\ufea7\ufea9\ufeab\ufead\ufeaf\ufeb3\ufeb7\ufebb\ufebf\ufec1" ++
        "\ufec5\ufecb\ufecf\u00a6\u00ac\u00f7\u00d7\ufec9\u0640\ufed3\ufed7\ufedb\ufedf\ufee3" ++
        "\ufee7\ufeeb\ufeed\ufeef\ufef3\ufebd\ufecc\ufece\ufecd\ufee1\ufe7d\u0651\ufee5\ufee9" ++
        "\ufeec\ufef0\ufef2\ufed0\ufed5\ufef5\ufef6\ufedd\ufed9\ufef1\u25a0\ufffd"),
    ("865 cp865 csibm865 ibm865",
      "ÇüéâäàåçêëèïîìÄÅÉæÆôöòûùÿÖÜø\u00a3Ø\u20a7ƒáíóúñÑªº\u00bf\u2310\u00ac\u00bd\u00bc\u00a1" ++
        "\u00ab\u00a4\u2591\u2592\u2593\u2502\u2524\u2561\u2562\u2556\u2555\u2563\u2551\u2557" ++
        "\u255d\u255c\u255b\u2510\u2514\u2534\u252c\u251c\u2500\u253c\u255e\u255f\u255a\u2554" ++
        "\u2569\u2566\u2560\u2550\u256c\u2567\u2568\u2564\u2565\u2559\u2558\u2552\u2553\u256b" ++
        "\u256a\u2518\u250c\u2588\u2584\u258c\u2590\u2580αßΓπΣσµτΦΘΩδ\u221eφε\u2229\u2261\u00b1" ++
        "\u2265\u2264\u2320\u2321\u00f7\u2248\u00b0\u2219\u00b7\u221aⁿ\u00b2\u25a0\u00a0"),
    ("866 cp866 csibm866 ibm866",
      "АБВГДЕЖЗИЙКЛМНОПРСТУФХЦЧШЩЪЫЬЭЮЯабвгдежзийклмноп\u2591\u2592\u2593\u2502\u2524\u2561" ++
        "\u2562\u2556\u2555\u2563\u2551\u2557\u255d\u255c\u255b\u2510\u2514\u2534\u252c\u251c" ++
        "\u2500\u253c\u255e\u255f\u255a\u2554\u2569\u2566\u2560\u2550\u256c\u2567\u2568\u2564" ++
        "\u2565\u2559\u2558\u2552\u2553\u256b\u256a\u2518\u250c\u2588\u2584\u258c\u2590\u2580рс" ++
        "туфхцчшщъыьэюяЁёЄєЇїЎў\u00b0\u2219\u00b7\u221a\u2116\u00a4\u25a0\u00a0"),
    ("869 cp869 cp_gr csibm869 ibm869",
      "\ufffd\ufffd\ufffd\ufffd\ufffd\ufffdΆ\ufffd\u00b7\u00ac\u00a6\u2018\u2019Έ\u2015ΉΊΪΌ" ++
        "\ufffd\ufffdΎΫ\u00a9Ώ\u00b2\u00b3ά\u00a3έήίϊΐόύΑΒΓΔΕΖΗ\u00bdΘΙ\u00ab\u00bb\u2591\u2592" ++
        "\u2593\u2502\u2524ΚΛΜΝ\u2563\u2551\u2557\u255dΞΟ\u2510\u2514\u2534\u252c\u251c\u2500" ++
        "\u253cΠΡ\u255a\u2554\u2569\u2566\u2560\u2550\u256cΣΤΥΦΧΨΩαβγ\u2518\u250c\u2588\u2584δε" ++
        "\u2580ζηθικλμνξοπρσςτ\u0384\u00ad\u00b1υφχ\u00a7ψ\u0385\u00b0\u00a8ωϋΰώ\u25a0\u00a0"),
    ("cp874",
      "\u20ac\ufffd\ufffd\ufffd\ufffd\u2026\ufffd\ufffd\ufffd\ufffd\ufffd\ufffd\ufffd\ufffd" ++
        "\ufffd\ufffd\ufffd\u2018\u2019\u201c\u201d\u2022\u2013\u2014\ufffd\ufffd\ufffd\ufffd" ++
        "\ufffd\ufffd\ufffd\ufffd\u00a0กขฃคฅฆงจฉชซฌญฎฏฐฑฒณดตถทธนบปผฝพฟภมยรฤลฦวศษสหฬอฮฯะ\u0e31าำ" ++
        "\u0e34\u0e35\u0e36\u0e37\u0e38\u0e39\u0e3a\ufffd\ufffd\ufffd\ufffd\u0e3fเแโใไๅๆ\u0e47" ++
        "\u0e48\u0e49\u0e4a\u0e4b\u0e4c\u0e4d\u0e4e๏๐๑๒๓๔๕๖๗๘๙๚๛\ufffd\ufffd\ufffd\ufffd"),
    ("cp875",
      "\x00\x01\x02\x03\u009c\x09\u0086\x7f\u0097\u008d\u008e\x0b\x0c\x0d\x0e\x0f\x10\x11\x12" ++
        "\x13\u009d\u0085\x08\u0087\x18\x19\u0092\u008f\x1c\x1d\x1e\x1f\u0080\u0081\u0082\u0083" ++
        "\u0084\x0a\x17\x1b\u0088\u0089\u008a\u008b\u008c\x05\x06\x07\u0090\u0091\x16\u0093" ++
        "\u0094\u0095\u0096\x04\u0098\u0099\u009a\u009b\x14\x15\u009e\x1a\x20ΑΒΓΔΕΖΗΘΙ\x5b\x2e" ++
        "\x3c\x28\x2b\x21\x26ΚΛΜΝΞΟΠΡΣ\x5d\x24\x2a\x29\x3b\x5e\x2d\x2fΤΥΦΧΨΩΪΫ\x7c\x2c\x25\x5f" ++
        "\x3e\x3f\u00a8ΆΈΉ\u00a0ΊΌΎΏ\x60\x3a\x23\x40\x27\x3d\x22\u0385abcdefghiαβγδεζ\u00b0jklm" ++
        "nopqrηθικλμ\u00b4\x7estuvwxyzνξοπρσ\u00a3άέήϊίόύϋώςτυφχψ\x7bABCDEFGHI\u00adωΐΰ\u2018" ++
        "\u2015\x7dJKLMNOPQR\u00b1\u00bd\x1a\u0387\u2019\u00a6\x5c\x1aSTUVWXYZ\u00b2\u00a7\x1a" ++
        "\x1a\u00ab\u00ac0123456789\u00b3\u00a9\x1a\x1a\u00bb\u009f"),
    ("cp1051 csHPRoman8 hp_roman8 ibm1051 r8 roman8",
      "\u0080\u0081\u0082\u0083\u0084\u0085\u0086\u0087\u0088\u0089\u008a\u008b\u008c\u008d" ++
        "\u008e\u008f\u0090\u0091\u0092\u0093\u0094\u0095\u0096\u0097\u0098\u0099\u009a\u009b" ++
        "\u009c\u009d\u009e\u009f\u00a0ÀÂÈÊËÎÏ\u00b4\u02cb\u02c6\u00a8\u02dcÙÛ\u20a4\u00afÝý" ++
        "\u00b0ÇçÑñ\u00a1\u00bf\u00a4\u00a3\u00a5\u00a7ƒ\u00a2âêôûáéóúàèòùäëöüÅîØÆåíøæÄìÖÜÉïßÔÁ" ++
        "ÃãÐðÍÌÓÒÕõŠšÚŸÿÞþ\u00b7µ\u00b6\u00be\u2014\u00bc\u00bdªº\u00ab\u25a0\u00bb\u00b1\ufffd"),
    ("iso8859_1",
      "\u0080\u0081\u0082\u0083\u0084\u0085\u0086\u0087\u0088\u0089\u008a\u008b\u008c\u008d" ++
        "\u008e\u008f\u0090\u0091\u0092\u0093\u0094\u0095\u0096\u0097\u0098\u0099\u009a\u009b" ++
        "\u009c\u009d\u009e\u009f\u00a0\u00a1\u00a2\u00a3\u00a4\u00a5\u00a6\u00a7\u00a8\u00a9ª" ++
        "\u00ab\u00ac\u00ad\u00ae\u00af\u00b0\u00b1\u00b2\u00b3\u00b4µ\u00b6\u00b7\u00b8\u00b9º" ++
        "\u00bb\u00bc\u00bd\u00be\u00bfÀÁÂÃÄÅÆÇÈÉÊËÌÍÎÏÐÑÒÓÔÕÖ\u00d7ØÙÚÛÜÝÞßàáâãäåæçèéêëìíîïðñò" ++
        "óôõö\u00f7øùúûüýþÿ"),
    ("csisolatin6 iso8859_10 iso_8859_10 iso_8859_10_1992 iso_ir_157 l6 latin6",
      "\u0080\u0081\u0082\u0083\u0084\u0085\u0086\u0087\u0088\u0089\u008a\u008b\u008c\u008d" ++
        "\u008e\u008f\u0090\u0091\u0092\u0093\u0094\u0095\u0096\u0097\u0098\u0099\u009a\u009b" ++
        "\u009c\u009d\u009e\u009f\u00a0ĄĒĢĪĨĶ\u00a7ĻĐŠŦŽ\u00adŪŊ\u00b0ąēģīĩķ\u00b7ļđšŧž\u2015ūŋ" ++
        "ĀÁÂÃÄÅÆĮČÉĘËĖÍÎÏÐŅŌÓÔÕÖŨØŲÚÛÜÝÞßāáâãäåæįčéęëėíîïðņōóôõöũøųúûüýþĸ"),
    ("iso8859_11 iso_8859_11 iso_8859_11_2001 thai",
      "\u0080\u0081\u0082\u0083\u0084\u0085\u0086\u0087\u0088\u0089\u008a\u008b\u008c\u008d" ++
        "\u008e\u008f\u0090\u0091\u0092\u0093\u0094\u0095\u0096\u0097\u0098\u0099\u009a\u009b" ++
        "\u009c\u009d\u009e\u009f\u00a0กขฃคฅฆงจฉชซฌญฎฏฐฑฒณดตถทธนบปผฝพฟภมยรฤลฦวศษสหฬอฮฯะ\u0e31าำ" ++
        "\u0e34\u0e35\u0e36\u0e37\u0e38\u0e39\u0e3a\ufffd\ufffd\ufffd\ufffd\u0e3fเแโใไๅๆ\u0e47" ++
        "\u0e48\u0e49\u0e4a\u0e4b\u0e4c\u0e4d\u0e4e๏๐๑๒๓๔๕๖๗๘๙๚๛\ufffd\ufffd\ufffd\ufffd"),
    ("iso8859_13 iso_8859_13 l7 latin7",
      "\u0080\u0081\u0082\u0083\u0084\u0085\u0086\u0087\u0088\u0089\u008a\u008b\u008c\u008d" ++
        "\u008e\u008f\u0090\u0091\u0092\u0093\u0094\u0095\u0096\u0097\u0098\u0099\u009a\u009b" ++
        "\u009c\u009d\u009e\u009f\u00a0\u201d\u00a2\u00a3\u00a4\u201e\u00a6\u00a7Ø\u00a9Ŗ\u00ab" ++
        "\u00ac\u00ad\u00aeÆ\u00b0\u00b1\u00b2\u00b3\u201cµ\u00b6\u00b7ø\u00b9ŗ\u00bb\u00bc" ++
        "\u00bd\u00beæĄĮĀĆÄÅĘĒČÉŹĖĢĶĪĻŠŃŅÓŌÕÖ\u00d7ŲŁŚŪÜŻŽßąįāćäåęēčéźėģķīļšńņóōõö\u00f7ųłśūüżž" ++
        "\u2019"),
    ("iso8859_14 iso_8859_14 iso_8859_14_1998 iso_celtic iso_ir_199 l8 latin8",
      "\u0080\u0081\u0082\u0083\u0084\u0085\u0086\u0087\u0088\u0089\u008a\u008b\u008c\u008d" ++
        "\u008e\u008f\u0090\u0091\u0092\u0093\u0094\u0095\u0096\u0097\u0098\u0099\u009a\u009b" ++
        "\u009c\u009d\u009e\u009f\u00a0Ḃḃ\u00a3ĊċḊ\u00a7Ẁ\u00a9ẂḋỲ\u00ad\u00aeŸḞḟĠġṀṁ\u00b6Ṗẁṗẃ" ++
        "ṠỳẄẅṡÀÁÂÃÄÅÆÇÈÉÊËÌÍÎÏŴÑÒÓÔÕÖṪØÙÚÛÜÝŶßàáâãäåæçèéêëìíîïŵñòóôõöṫøùúûüýŷÿ"),
    ("iso8859_15 iso_8859_15 l9 latin9",
      "\u0080\u0081\u0082\u0083\u0084\u0085\u0086\u0087\u0088\u0089\u008a\u008b\u008c\u008d" ++
        "\u008e\u008f\u0090\u0091\u0092\u0093\u0094\u0095\u0096\u0097\u0098\u0099\u009a\u009b" ++
        "\u009c\u009d\u009e\u009f\u00a0\u00a1\u00a2\u00a3\u20ac\u00a5Š\u00a7š\u00a9ª\u00ab" ++
        "\u00ac\u00ad\u00ae\u00af\u00b0\u00b1\u00b2\u00b3Žµ\u00b6\u00b7ž\u00b9º\u00bbŒœŸ\u00bfÀ" ++
        "ÁÂÃÄÅÆÇÈÉÊËÌÍÎÏÐÑÒÓÔÕÖ\u00d7ØÙÚÛÜÝÞßàáâãäåæçèéêëìíîïðñòóôõö\u00f7øùúûüýþÿ"),
    ("iso8859_16 iso_8859_16 iso_8859_16_2001 iso_ir_226 l10 latin10",
      "\u0080\u0081\u0082\u0083\u0084\u0085\u0086\u0087\u0088\u0089\u008a\u008b\u008c\u008d" ++
        "\u008e\u008f\u0090\u0091\u0092\u0093\u0094\u0095\u0096\u0097\u0098\u0099\u009a\u009b" ++
        "\u009c\u009d\u009e\u009f\u00a0ĄąŁ\u20ac\u201eŠ\u00a7š\u00a9Ș\u00abŹ\u00adźŻ\u00b0" ++
        "\u00b1ČłŽ\u201d\u00b6\u00b7žčș\u00bbŒœŸżÀÁÂĂÄĆÆÇÈÉÊËÌÍÎÏĐŃÒÓÔŐÖŚŰÙÚÛÜĘȚßàáâăäćæçèéêëìí" ++
        "îïđńòóôőöśűùúûüęțÿ"),
    ("csisolatin2 iso8859_2 iso_8859_2 iso_8859_2_1987 iso_ir_101 l2 latin2",
      "\u0080\u0081\u0082\u0083\u0084\u0085\u0086\u0087\u0088\u0089\u008a\u008b\u008c\u008d" ++
        "\u008e\u008f\u0090\u0091\u0092\u0093\u0094\u0095\u0096\u0097\u0098\u0099\u009a\u009b" ++
        "\u009c\u009d\u009e\u009f\u00a0Ą\u02d8Ł\u00a4ĽŚ\u00a7\u00a8ŠŞŤŹ\u00adŽŻ\u00b0ą\u02dbł" ++
        "\u00b4ľś\u02c7\u00b8šşťź\u02ddžżŔÁÂĂÄĹĆÇČÉĘËĚÍÎĎĐŃŇÓÔŐÖ\u00d7ŘŮÚŰÜÝŢßŕáâăäĺćçčéęëěíîďđ" ++
        "ńňóôőö\u00f7řůúűüýţ\u02d9"),
    ("csisolatin3 iso8859_3 iso_8859_3 iso_8859_3_1988 iso_ir_109 l3 latin3",
      "\u0080\u0081\u0082\u0083\u0084\u0085\u0086\u0087\u0088\u0089\u008a\u008b\u008c\u008d" ++
        "\u008e\u008f\u0090\u0091\u0092\u0093\u0094\u0095\u0096\u0097\u0098\u0099\u009a\u009b" ++
        "\u009c\u009d\u009e\u009f\u00a0Ħ\u02d8\u00a3\u00a4\ufffdĤ\u00a7\u00a8İŞĞĴ\u00ad\ufffdŻ" ++
        "\u00b0ħ\u00b2\u00b3\u00b4µĥ\u00b7\u00b8ışğĵ\u00bd\ufffdżÀÁÂ\ufffdÄĊĈÇÈÉÊËÌÍÎÏ\ufffdÑÒÓ" ++
        "ÔĠÖ\u00d7ĜÙÚÛÜŬŜßàáâ\ufffdäċĉçèéêëìíîï\ufffdñòóôġö\u00f7ĝùúûüŭŝ\u02d9"),
    ("csisolatin4 iso8859_4 iso_8859_4 iso_8859_4_1988 iso_ir_110 l4 latin4",
      "\u0080\u0081\u0082\u0083\u0084\u0085\u0086\u0087\u0088\u0089\u008a\u008b\u008c\u008d" ++
        "\u008e\u008f\u0090\u0091\u0092\u0093\u0094\u0095\u0096\u0097\u0098\u0099\u009a\u009b" ++
        "\u009c\u009d\u009e\u009f\u00a0ĄĸŖ\u00a4ĨĻ\u00a7\u00a8ŠĒĢŦ\u00adŽ\u00af\u00b0ą\u02dbŗ" ++
        "\u00b4ĩļ\u02c7\u00b8šēģŧŊžŋĀÁÂÃÄÅÆĮČÉĘËĖÍÎĪĐŅŌĶÔÕÖ\u00d7ØŲÚÛÜŨŪßāáâãäåæįčéęëėíîīđņōķôõ" ++
        "ö\u00f7øųúûüũū\u02d9"),
    ("csisolatincyrillic cyrillic iso8859_5 iso_8859_5 iso_8859_5_1988 iso_ir_144",
      "\u0080\u0081\u0082\u0083\u0084\u0085\u0086\u0087\u0088\u0089\u008a\u008b\u008c\u008d" ++
        "\u008e\u008f\u0090\u0091\u0092\u0093\u0094\u0095\u0096\u0097\u0098\u0099\u009a\u009b" ++
        "\u009c\u009d\u009e\u009f\u00a0ЁЂЃЄЅІЇЈЉЊЋЌ\u00adЎЏАБВГДЕЖЗИЙКЛМНОПРСТУФХЦЧШЩЪЫЬЭЮЯабвг" ++
        "дежзийклмнопрстуфхцчшщъыьэюя\u2116ёђѓєѕіїјљњћќ\u00a7ўџ"),
    ("arabic asmo_708 csisolatinarabic ecma_114 iso8859_6 iso_8859_6 iso_8859_6_1987 iso_ir_127",
      "\u0080\u0081\u0082\u0083\u0084\u0085\u0086\u0087\u0088\u0089\u008a\u008b\u008c\u008d" ++
        "\u008e\u008f\u0090\u0091\u0092\u0093\u0094\u0095\u0096\u0097\u0098\u0099\u009a\u009b" ++
        "\u009c\u009d\u009e\u009f\u00a0\ufffd\ufffd\ufffd\u00a4\ufffd\ufffd\ufffd\ufffd\ufffd" ++
        "\ufffd\ufffd\u060c\u00ad\ufffd\ufffd\ufffd\ufffd\ufffd\ufffd\ufffd\ufffd\ufffd\ufffd" ++
        "\ufffd\ufffd\ufffd\u061b\ufffd\ufffd\ufffd\u061f\ufffd\u0621\u0622\u0623\u0624\u0625" ++
        "\u0626\u0627\u0628\u0629\u062a\u062b\u062c\u062d\u062e\u062f\u0630\u0631\u0632\u0633" ++
        "\u0634\u0635\u0636\u0637\u0638\u0639\u063a\ufffd\ufffd\ufffd\ufffd\ufffd\u0640\u0641" ++
        "\u0642\u0643\u0644\u0645\u0646\u0647\u0648\u0649\u064a\u064b\u064c\u064d\u064e\u064f" ++
        "\u0650\u0651\u0652\ufffd\ufffd\ufffd\ufffd\ufffd\ufffd\ufffd\ufffd\ufffd\ufffd\ufffd" ++
        "\ufffd\ufffd"),
    ("csisolatingreek ecma_118 elot_928 greek greek8 iso8859_7 iso_8859_7 iso_8859_7_1987 " ++
     "iso_ir_126",
      "\u0080\u0081\u0082\u0083\u0084\u0085\u0086\u0087\u0088\u0089\u008a\u008b\u008c\u008d" ++
        "\u008e\u008f\u0090\u0091\u0092\u0093\u0094\u0095\u0096\u0097\u0098\u0099\u009a\u009b" ++
        "\u009c\u009d\u009e\u009f\u00a0\u2018\u2019\u00a3\u20ac\u20af\u00a6\u00a7\u00a8\u00a9ͺ" ++
        "\u00ab\u00ac\u00ad\ufffd\u2015\u00b0\u00b1\u00b2\u00b3\u0384\u0385Ά\u00b7ΈΉΊ\u00bbΌ" ++
        "\u00bdΎΏΐΑΒΓΔΕΖΗΘΙΚΛΜΝΞΟΠΡ\ufffdΣΤΥΦΧΨΩΪΫάέήίΰαβγδεζηθικλμνξοπρςστυφχψωϊϋόύώ\ufffd"),
    ("csisolatinhebrew hebrew iso8859_8 iso_8859_8 iso_8859_8_1988 iso_ir_138",
      "\u0080\u0081\u0082\u0083\u0084\u0085\u0086\u0087\u0088\u0089\u008a\u008b\u008c\u008d" ++
        "\u008e\u008f\u0090\u0091\u0092\u0093\u0094\u0095\u0096\u0097\u0098\u0099\u009a\u009b" ++
        "\u009c\u009d\u009e\u009f\u00a0\ufffd\u00a2\u00a3\u00a4\u00a5\u00a6\u00a7\u00a8\u00a9" ++
        "\u00d7\u00ab\u00ac\u00ad\u00ae\u00af\u00b0\u00b1\u00b2\u00b3\u00b4µ\u00b6\u00b7\u00b8" ++
        "\u00b9\u00f7\u00bb\u00bc\u00bd\u00be\ufffd\ufffd\ufffd\ufffd\ufffd\ufffd\ufffd\ufffd" ++
        "\ufffd\ufffd\ufffd\ufffd\ufffd\ufffd\ufffd\ufffd\ufffd\ufffd\ufffd\ufffd\ufffd\ufffd" ++
        "\ufffd\ufffd\ufffd\ufffd\ufffd\ufffd\ufffd\ufffd\ufffd\ufffd\u2017\u05d0\u05d1\u05d2" ++
        "\u05d3\u05d4\u05d5\u05d6\u05d7\u05d8\u05d9\u05da\u05db\u05dc\u05dd\u05de\u05df\u05e0" ++
        "\u05e1\u05e2\u05e3\u05e4\u05e5\u05e6\u05e7\u05e8\u05e9\u05ea\ufffd\ufffd\u200e\u200f" ++
        "\ufffd"),
    ("csisolatin5 iso8859_9 iso_8859_9 iso_8859_9_1989 iso_ir_148 l5 latin5",
      "\u0080\u0081\u0082\u0083\u0084\u0085\u0086\u0087\u0088\u0089\u008a\u008b\u008c\u008d" ++
        "\u008e\u008f\u0090\u0091\u0092\u0093\u0094\u0095\u0096\u0097\u0098\u0099\u009a\u009b" ++
        "\u009c\u009d\u009e\u009f\u00a0\u00a1\u00a2\u00a3\u00a4\u00a5\u00a6\u00a7\u00a8\u00a9ª" ++
        "\u00ab\u00ac\u00ad\u00ae\u00af\u00b0\u00b1\u00b2\u00b3\u00b4µ\u00b6\u00b7\u00b8\u00b9º" ++
        "\u00bb\u00bc\u00bd\u00be\u00bfÀÁÂÃÄÅÆÇÈÉÊËÌÍÎÏĞÑÒÓÔÕÖ\u00d7ØÙÚÛÜİŞßàáâãäåæçèéêëìíîïğñò" ++
        "óôõö\u00f7øùúûüışÿ"),
    ("cskoi8r koi8_r",
      "\u2500\u2502\u250c\u2510\u2514\u2518\u251c\u2524\u252c\u2534\u253c\u2580\u2584\u2588" ++
        "\u258c\u2590\u2591\u2592\u2593\u2320\u25a0\u2219\u221a\u2248\u2264\u2265\u00a0\u2321" ++
        "\u00b0\u00b2\u00b7\u00f7\u2550\u2551\u2552ё\u2553\u2554\u2555\u2556\u2557\u2558\u2559" ++
        "\u255a\u255b\u255c\u255d\u255e\u255f\u2560\u2561Ё\u2562\u2563\u2564\u2565\u2566\u2567" ++
        "\u2568\u2569\u256a\u256b\u256c\u00a9юабцдефгхийклмнопярстужвьызшэщчъЮАБЦДЕФГХИЙКЛМНОПЯ" ++
        "РСТУЖВЬЫЗШЭЩЧЪ"),
    ("koi8_t",
      "қғ\u201aҒ\u201e\u2026\u2020\u2021\ufffd\u2030ҳ\u2039ҲҷҶ\ufffdҚ\u2018\u2019\u201c\u201d" ++
        "\u2022\u2013\u2014\ufffd\u2122\ufffd\u203a\ufffd\ufffd\ufffd\ufffd\ufffdӯӮё\u00a4ӣ" ++
        "\u00a6\u00a7\ufffd\ufffd\ufffd\u00ab\u00ac\u00ad\u00ae\ufffd\u00b0\u00b1\u00b2Ё\ufffdӢ" ++
        "\u00b6\u00b7\ufffd\u2116\ufffd\u00bb\ufffd\ufffd\ufffd\u00a9юабцдефгхийклмнопярстужвьы" ++
        "зшэщчъЮАБЦДЕФГХИЙКЛМНОПЯРСТУЖВЬЫЗШЭЩЧЪ"),
    ("koi8_u",
      "\u2500\u2502\u250c\u2510\u2514\u2518\u251c\u2524\u252c\u2534\u253c\u2580\u2584\u2588" ++
        "\u258c\u2590\u2591\u2592\u2593\u2320\u25a0\u2219\u221a\u2248\u2264\u2265\u00a0\u2321" ++
        "\u00b0\u00b2\u00b7\u00f7\u2550\u2551\u2552ёє\u2554ії\u2557\u2558\u2559\u255a\u255bґ" ++
        "\u255d\u255e\u255f\u2560\u2561ЁЄ\u2563ІЇ\u2566\u2567\u2568\u2569\u256aҐ\u256c\u00a9юаб" ++
        "цдефгхийклмнопярстужвьызшэщчъЮАБЦДЕФГХИЙКЛМНОПЯРСТУЖВЬЫЗШЭЩЧЪ"),
    ("kz1048 kz_1048 rk1048 strk1048_2002",
      "ЂЃ\u201aѓ\u201e\u2026\u2020\u2021\u20ac\u2030Љ\u2039ЊҚҺЏђ\u2018\u2019\u201c\u201d\u2022" ++
        "\u2013\u2014\ufffd\u2122љ\u203aњқһџ\u00a0ҰұӘ\u00a4Ө\u00a6\u00a7Ё\u00a9Ғ\u00ab\u00ac" ++
        "\u00ad\u00aeҮ\u00b0\u00b1Ііөµ\u00b6\u00b7ё\u2116ғ\u00bbәҢңүАБВГДЕЖЗИЙКЛМНОПРСТУФХЦЧШЩЪ" ++
        "ЫЬЭЮЯабвгдежзийклмнопрстуфхцчшщъыьэюя"),
    ("8859 cp819 csisolatin1 ibm819 iso8859 iso8859_1 iso_8859_1 iso_8859_1_1987 iso_ir_100 l1 " ++
     "latin latin1 latin_1",
      "\u0080\u0081\u0082\u0083\u0084\u0085\u0086\u0087\u0088\u0089\u008a\u008b\u008c\u008d" ++
        "\u008e\u008f\u0090\u0091\u0092\u0093\u0094\u0095\u0096\u0097\u0098\u0099\u009a\u009b" ++
        "\u009c\u009d\u009e\u009f\u00a0\u00a1\u00a2\u00a3\u00a4\u00a5\u00a6\u00a7\u00a8\u00a9ª" ++
        "\u00ab\u00ac\u00ad\u00ae\u00af\u00b0\u00b1\u00b2\u00b3\u00b4µ\u00b6\u00b7\u00b8\u00b9º" ++
        "\u00bb\u00bc\u00bd\u00be\u00bfÀÁÂÃÄÅÆÇÈÉÊËÌÍÎÏÐÑÒÓÔÕÖ\u00d7ØÙÚÛÜÝÞßàáâãäåæçèéêëìíîïðñò" ++
        "óôõö\u00f7øùúûüýþÿ"),
    ("mac_arabic",
      "Ä\u00a0ÇÉÑÖÜáàâä\u06ba\u00abçéèêëí\u2026îïñó\u00bbôö\u00f7úùûü\x20\x21\x22\x23\x24\u066a" ++
        "\x26\x27\x28\x29\x2a\x2b\u060c\x2d\x2e\x2f\u0660\u0661\u0662\u0663\u0664\u0665\u0666" ++
        "\u0667\u0668\u0669\x3a\u061b\x3c\x3d\x3e\u061f\u274a\u0621\u0622\u0623\u0624\u0625" ++
        "\u0626\u0627\u0628\u0629\u062a\u062b\u062c\u062d\u062e\u062f\u0630\u0631\u0632\u0633" ++
        "\u0634\u0635\u0636\u0637\u0638\u0639\u063a\x5b\x5c\x5d\x5e\x5f\u0640\u0641\u0642\u0643" ++
        "\u0644\u0645\u0646\u0647\u0648\u0649\u064a\u064b\u064c\u064d\u064e\u064f\u0650\u0651" ++
        "\u0652\u067e\u0679\u0686\u06d5\u06a4\u06af\u0688\u0691\x7b\x7c\x7d\u0698\u06d2"),
    ("mac_croatian",
      "ÄÅÇÉÑÖÜáàâäãåçéèêëíìîïñóòôöõúùûü\u2020\u00b0\u00a2\u00a3\u00a7\u2022\u00b6ß\u00aeŠ\u2122" ++
        "\u00b4\u00a8\u2260ŽØ\u221e\u00b1\u2264\u2265\u2206µ\u2202\u2211\u220fš\u222bªºΩžø" ++
        "\u00bf\u00a1\u00ac\u221aƒ\u2248Ć\u00abČ\u2026\u00a0ÀÃÕŒœĐ\u2014\u201c\u201d\u2018" ++
        "\u2019\u00f7\u25ca\uf8ff\u00a9\u2044\u20ac\u2039\u203aÆ\u00bb\u2013\u00b7\u201a\u201e" ++
        "\u2030ÂćÁčÈÍÎÏÌÓÔđÒÚÛÙı\u02c6\u02dc\u00afπË\u02da\u00b8Êæ\u02c7"),
    ("mac_cyrillic maccyrillic",
      "АБВГДЕЖЗИЙКЛМНОПРСТУФХЦЧШЩЪЫЬЭЮЯ\u2020\u00b0Ґ\u00a3\u00a7\u2022\u00b6І\u00ae\u00a9\u2122" ++
        "Ђђ\u2260Ѓѓ\u221e\u00b1\u2264\u2265іµґЈЄєЇїЉљЊњјЅ\u00ac\u221aƒ\u2248\u2206\u00ab\u00bb" ++
        "\u2026\u00a0ЋћЌќѕ\u2013\u2014\u201c\u201d\u2018\u2019\u00f7\u201eЎўЏџ\u2116Ёёяабвгдежз" ++
        "ийклмнопрстуфхцчшщъыьэю\u20ac"),
    ("mac_farsi",
      "Ä\u00a0ÇÉÑÖÜáàâä\u06ba\u00abçéèêëí\u2026îïñó\u00bbôö\u00f7úùûü\x20\x21\x22\x23\x24\u066a" ++
        "\x26\x27\x28\x29\x2a\x2b\u060c\x2d\x2e\x2f\u06f0\u06f1\u06f2\u06f3\u06f4\u06f5\u06f6" ++
        "\u06f7\u06f8\u06f9\x3a\u061b\x3c\x3d\x3e\u061f\u274a\u0621\u0622\u0623\u0624\u0625" ++
        "\u0626\u0627\u0628\u0629\u062a\u062b\u062c\u062d\u062e\u062f\u0630\u0631\u0632\u0633" ++
        "\u0634\u0635\u0636\u0637\u0638\u0639\u063a\x5b\x5c\x5d\x5e\x5f\u0640\u0641\u0642\u0643" ++
        "\u0644\u0645\u0646\u0647\u0648\u0649\u064a\u064b\u064c\u064d\u064e\u064f\u0650\u0651" ++
        "\u0652\u067e\u0679\u0686\u06d5\u06a4\u06af\u0688\u0691\x7b\x7c\x7d\u0698\u06d2"),
    ("mac_greek macgreek",
      "Ä\u00b9\u00b2É\u00b3ÖÜ\u0385àâä\u0384\u00a8çéèêë\u00a3\u2122îï\u2022\u00bd\u2030ôö\u00a6" ++
        "\u20acùûü\u2020ΓΔΘΛΞΠß\u00ae\u00a9ΣΪ\u00a7\u2260\u00b0\u00b7Α\u00b1\u2264\u2265\u00a5Β" ++
        "ΕΖΗΙΚΜΦΫΨΩάΝ\u00acΟΡ\u2248Τ\u00ab\u00bb\u2026\u00a0ΥΧΆΈœ\u2013\u2015\u201c\u201d\u2018" ++
        "\u2019\u00f7ΉΊΌΎέήίόΏύαβψδεφγηιξκλμνοπώρστθωςχυζϊϋΐΰ\u00ad"),
    ("mac_iceland maciceland",
      "ÄÅÇÉÑÖÜáàâäãåçéèêëíìîïñóòôöõúùûüÝ\u00b0\u00a2\u00a3\u00a7\u2022\u00b6ß\u00ae\u00a9\u2122" ++
        "\u00b4\u00a8\u2260ÆØ\u221e\u00b1\u2264\u2265\u00a5µ\u2202\u2211\u220fπ\u222bªºΩæø" ++
        "\u00bf\u00a1\u00ac\u221aƒ\u2248\u2206\u00ab\u00bb\u2026\u00a0ÀÃÕŒœ\u2013\u2014\u201c" ++
        "\u201d\u2018\u2019\u00f7\u25caÿŸ\u2044\u20acÐðÞþý\u00b7\u201a\u201e\u2030ÂÊÁËÈÍÎÏÌÓÔ" ++
        "\uf8ffÒÚÛÙı\u02c6\u02dc\u00af\u02d8\u02d9\u02da\u00b8\u02dd\u02db\u02c7"),
    ("mac_centeuro mac_latin2 maccentraleurope maclatin2",
      "ÄĀāÉĄÖÜáąČäčĆćéŹźĎíďĒēĖóėôöõúĚěü\u2020\u00b0Ę\u00a3\u00a7\u2022\u00b6ß\u00ae\u00a9\u2122" ++
        "ę\u00a8\u2260ģĮįĪ\u2264\u2265īĶ\u2202\u2211łĻļĽľĹĺŅņŃ\u00ac\u221ańŇ\u2206\u00ab\u00bb" ++
        "\u2026\u00a0ňŐÕőŌ\u2013\u2014\u201c\u201d\u2018\u2019\u00f7\u25caōŔŕŘ\u2039\u203ařŖŗŠ" ++
        "\u201a\u201ešŚśÁŤťÍŽžŪÓÔūŮÚůŰűŲųÝýķŻŁżĢ\u02c7"),
    ("mac_roman macintosh macroman",
      "ÄÅÇÉÑÖÜáàâäãåçéèêëíìîïñóòôöõúùûü\u2020\u00b0\u00a2\u00a3\u00a7\u2022\u00b6ß\u00ae\u00a9" ++
        "\u2122\u00b4\u00a8\u2260ÆØ\u221e\u00b1\u2264\u2265\u00a5µ\u2202\u2211\u220fπ\u222bªºΩæ" ++
        "ø\u00bf\u00a1\u00ac\u221aƒ\u2248\u2206\u00ab\u00bb\u2026\u00a0ÀÃÕŒœ\u2013\u2014\u201c" ++
        "\u201d\u2018\u2019\u00f7\u25caÿŸ\u2044\u20ac\u2039\u203aﬁﬂ\u2021\u00b7\u201a\u201e" ++
        "\u2030ÂÊÁËÈÍÎÏÌÓÔ\uf8ffÒÚÛÙı\u02c6\u02dc\u00af\u02d8\u02d9\u02da\u00b8\u02dd\u02db" ++
        "\u02c7"),
    ("mac_romanian",
      "ÄÅÇÉÑÖÜáàâäãåçéèêëíìîïñóòôöõúùûü\u2020\u00b0\u00a2\u00a3\u00a7\u2022\u00b6ß\u00ae\u00a9" ++
        "\u2122\u00b4\u00a8\u2260ĂȘ\u221e\u00b1\u2264\u2265\u00a5µ\u2202\u2211\u220fπ\u222bªºΩă" ++
        "ș\u00bf\u00a1\u00ac\u221aƒ\u2248\u2206\u00ab\u00bb\u2026\u00a0ÀÃÕŒœ\u2013\u2014\u201c" ++
        "\u201d\u2018\u2019\u00f7\u25caÿŸ\u2044\u20ac\u2039\u203aȚț\u2021\u00b7\u201a\u201e" ++
        "\u2030ÂÊÁËÈÍÎÏÌÓÔ\uf8ffÒÚÛÙı\u02c6\u02dc\u00af\u02d8\u02d9\u02da\u00b8\u02dd\u02db" ++
        "\u02c7"),
    ("mac_turkish macturkish",
      "ÄÅÇÉÑÖÜáàâäãåçéèêëíìîïñóòôöõúùûü\u2020\u00b0\u00a2\u00a3\u00a7\u2022\u00b6ß\u00ae\u00a9" ++
        "\u2122\u00b4\u00a8\u2260ÆØ\u221e\u00b1\u2264\u2265\u00a5µ\u2202\u2211\u220fπ\u222bªºΩæ" ++
        "ø\u00bf\u00a1\u00ac\u221aƒ\u2248\u2206\u00ab\u00bb\u2026\u00a0ÀÃÕŒœ\u2013\u2014\u201c" ++
        "\u201d\u2018\u2019\u00f7\u25caÿŸĞğİıŞş\u2021\u00b7\u201a\u201e\u2030ÂÊÁËÈÍÎÏÌÓÔ\uf8ffÒ" ++
        "ÚÛÙ\uf8a0\u02c6\u02dc\u00af\u02d8\u02d9\u02da\u00b8\u02dd\u02db\u02c7"),
    ("palmos",
      "\u20ac\u0081\u201aƒ\u201e\u2026\u2020\u2021\u02c6\u2030Š\u2039Œ\u2666\u2663\u2665\u2660" ++
        "\u2018\u2019\u201c\u201d\u2022\u2013\u2014\u02dc\u2122š\u009bœ\u009d\u009eŸ\u00a0" ++
        "\u00a1\u00a2\u00a3\u00a4\u00a5\u00a6\u00a7\u00a8\u00a9ª\u00ab\u00ac\u00ad\u00ae\u00af" ++
        "\u00b0\u00b1\u00b2\u00b3\u00b4µ\u00b6\u00b7\u00b8\u00b9º\u00bb\u00bc\u00bd\u00be\u00bf" ++
        "ÀÁÂÃÄÅÆÇÈÉÊËÌÍÎÏÐÑÒÓÔÕÖ\u00d7ØÙÚÛÜÝÞßàáâãäåæçèéêëìíîïðñòóôõö\u00f7øùúûüýþÿ"),
    ("cp154 csptcp154 cyrillic_asian pt154 ptcp154",
      "ҖҒӮғ\u201e\u2026ҶҮҲүҠӢҢҚҺҸҗ\u2018\u2019\u201c\u201d\u2022\u2013\u2014ҳҷҡӣңқһҹ\u00a0ЎўЈӨҘ" ++
        "Ұ\u00a7Ё\u00a9Ә\u00ab\u00acӯ\u00aeҜ\u00b0ұІіҙө\u00b6\u00b7ё\u2116ә\u00bbјҪҫҝАБВГДЕЖЗИЙ" ++
        "КЛМНОПРСТУФХЦЧШЩЪЫЬЭЮЯабвгдежзийклмнопрстуфхцчшщъыьэюя"),
    ("iso_ir_166 tis620 tis_620 tis_620_0 tis_620_2529_0 tis_620_2529_1",
      "\u0080\u0081\u0082\u0083\u0084\u0085\u0086\u0087\u0088\u0089\u008a\u008b\u008c\u008d" ++
        "\u008e\u008f\u0090\u0091\u0092\u0093\u0094\u0095\u0096\u0097\u0098\u0099\u009a\u009b" ++
        "\u009c\u009d\u009e\u009f\ufffdกขฃคฅฆงจฉชซฌญฎฏฐฑฒณดตถทธนบปผฝพฟภมยรฤลฦวศษสหฬอฮฯะ\u0e31าำ" ++
        "\u0e34\u0e35\u0e36\u0e37\u0e38\u0e39\u0e3a\ufffd\ufffd\ufffd\ufffd\u0e3fเแโใไๅๆ\u0e47" ++
        "\u0e48\u0e49\u0e4a\u0e4b\u0e4c\u0e4d\u0e4e๏๐๑๒๓๔๕๖๗๘๙๚๛\ufffd\ufffd\ufffd\ufffd")
  ]

end PolicyKeeper
