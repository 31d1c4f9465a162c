import BrowserFlow.Text.Ranges

/-!
# Scripts

The characters of some scripts, by the Unicode standard, version 17.
-/

namespace BrowserFlow.Text

def greekRanges : List (Nat × Nat) := [
    (880, 883), (885, 887), (890, 893), (895, 895), (900, 900), (902, 902), (904, 906), (908, 908),
    (910, 929), (931, 993), (1008, 1023), (7462, 7466), (7517, 7521), (7526, 7530), (7615, 7615),
    (7936, 7957), (7960, 7965), (7968, 8005), (8008, 8013), (8016, 8023), (8025, 8025),
    (8027, 8027), (8029, 8029), (8031, 8061), (8064, 8116), (8118, 8132), (8134, 8147),
    (8150, 8155), (8157, 8175), (8178, 8180), (8182, 8190), (8486, 8486), (43877, 43877),
    (65856, 65934), (65952, 65952), (119296, 119365)]

def hebrewRanges : List (Nat × Nat) := [
    (1425, 1479), (1488, 1514), (1519, 1524), (64285, 64310), (64312, 64316), (64318, 64318),
    (64320, 64321), (64323, 64324), (64326, 64335)]

def japaneseRanges : List (Nat × Nat) := [
    (11904, 11929), (11931, 12019), (12032, 12245), (12293, 12293), (12295, 12295), (12321, 12329),
    (12344, 12347), (12353, 12438), (12445, 12447), (12449, 12538), (12541, 12543), (12784, 12799),
    (13008, 13054), (13056, 13143), (13312, 19903), (19968, 40959), (63744, 64109), (64112, 64217),
    (65382, 65391), (65393, 65437), (94178, 94179), (94192, 94198), (110576, 110579),
    (110581, 110587), (110589, 110590), (110592, 110882), (110898, 110898), (110928, 110930),
    (110933, 110933), (110948, 110951), (127488, 127488), (131072, 173791), (173824, 178205),
    (178208, 183981), (183984, 191456), (191472, 192093), (194560, 195101), (196608, 201546),
    (201552, 210041)]

end BrowserFlow.Text
