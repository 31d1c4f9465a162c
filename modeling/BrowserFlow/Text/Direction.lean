/-!
# Directions

Most characters are written from left to right, those of some scripts from right to
left, and others take their direction from their surroundings. The table follows the
Unicode standard, version 14, for the characters that names of hosts may have.
-/

namespace BrowserFlow.Text

inductive Direction where
  | left
  | right
  | arabicNumber
  | europeanNumber
  /-- That of the character before it. -/
  | carried
  | neutral
  | unknown
deriving DecidableEq, Repr

/-- The code points from `first` to `last` have one direction. -/
structure DirectionRun where
  first : Nat
  last : Nat
  direction : Direction

def directionRuns : List DirectionRun := [
    ⟨45, 45, .neutral⟩, ⟨48, 57, .europeanNumber⟩, ⟨183, 183, .neutral⟩, ⟨697, 698, .neutral⟩,
    ⟨710, 719, .neutral⟩, ⟨748, 748, .neutral⟩, ⟨768, 879, .carried⟩, ⟨885, 885, .neutral⟩,
    ⟨1155, 1159, .carried⟩, ⟨1425, 1479, .carried⟩, ⟨1488, 1524, .right⟩, ⟨1552, 1562, .carried⟩,
    ⟨1568, 1610, .right⟩, ⟨1611, 1631, .carried⟩, ⟨1632, 1641, .arabicNumber⟩, ⟨1646, 1647, .right⟩,
    ⟨1648, 1648, .carried⟩, ⟨1649, 1749, .right⟩, ⟨1750, 1764, .carried⟩, ⟨1765, 1766, .right⟩,
    ⟨1767, 1773, .carried⟩, ⟨1774, 1775, .right⟩, ⟨1776, 1785, .europeanNumber⟩,
    ⟨1786, 1808, .right⟩, ⟨1809, 1809, .carried⟩, ⟨1810, 1839, .right⟩, ⟨1840, 1866, .carried⟩,
    ⟨1869, 1957, .right⟩, ⟨1958, 1968, .carried⟩, ⟨1969, 2026, .right⟩, ⟨2027, 2035, .carried⟩,
    ⟨2036, 2037, .right⟩, ⟨2045, 2045, .carried⟩, ⟨2048, 2069, .right⟩, ⟨2070, 2073, .carried⟩,
    ⟨2074, 2074, .right⟩, ⟨2075, 2083, .carried⟩, ⟨2084, 2084, .right⟩, ⟨2085, 2087, .carried⟩,
    ⟨2088, 2088, .right⟩, ⟨2089, 2093, .carried⟩, ⟨2112, 2136, .right⟩, ⟨2137, 2139, .carried⟩,
    ⟨2144, 2190, .right⟩, ⟨2191, 2199, .unknown⟩, ⟨2200, 2207, .carried⟩, ⟨2208, 2249, .right⟩,
    ⟨2250, 2306, .carried⟩, ⟨2362, 2362, .carried⟩, ⟨2364, 2364, .carried⟩, ⟨2369, 2376, .carried⟩,
    ⟨2381, 2381, .carried⟩, ⟨2385, 2391, .carried⟩, ⟨2402, 2403, .carried⟩, ⟨2433, 2433, .carried⟩,
    ⟨2492, 2492, .carried⟩, ⟨2497, 2500, .carried⟩, ⟨2509, 2509, .carried⟩, ⟨2530, 2531, .carried⟩,
    ⟨2558, 2562, .carried⟩, ⟨2620, 2620, .carried⟩, ⟨2625, 2641, .carried⟩, ⟨2672, 2673, .carried⟩,
    ⟨2677, 2690, .carried⟩, ⟨2748, 2748, .carried⟩, ⟨2753, 2760, .carried⟩, ⟨2765, 2765, .carried⟩,
    ⟨2786, 2787, .carried⟩, ⟨2810, 2817, .carried⟩, ⟨2876, 2876, .carried⟩, ⟨2879, 2879, .carried⟩,
    ⟨2881, 2884, .carried⟩, ⟨2893, 2902, .carried⟩, ⟨2914, 2915, .carried⟩, ⟨2946, 2946, .carried⟩,
    ⟨3008, 3008, .carried⟩, ⟨3021, 3021, .carried⟩, ⟨3072, 3072, .carried⟩, ⟨3076, 3076, .carried⟩,
    ⟨3132, 3132, .carried⟩, ⟨3134, 3136, .carried⟩, ⟨3142, 3158, .carried⟩, ⟨3164, 3164, .unknown⟩,
    ⟨3170, 3171, .carried⟩, ⟨3201, 3201, .carried⟩, ⟨3260, 3260, .carried⟩, ⟨3276, 3277, .carried⟩,
    ⟨3292, 3292, .unknown⟩, ⟨3298, 3299, .carried⟩, ⟨3315, 3315, .unknown⟩, ⟨3328, 3329, .carried⟩,
    ⟨3387, 3388, .carried⟩, ⟨3393, 3396, .carried⟩, ⟨3405, 3405, .carried⟩, ⟨3426, 3427, .carried⟩,
    ⟨3457, 3457, .carried⟩, ⟨3530, 3530, .carried⟩, ⟨3538, 3542, .carried⟩, ⟨3633, 3633, .carried⟩,
    ⟨3636, 3642, .carried⟩, ⟨3655, 3662, .carried⟩, ⟨3761, 3761, .carried⟩, ⟨3764, 3772, .carried⟩,
    ⟨3784, 3789, .carried⟩, ⟨3790, 3790, .unknown⟩, ⟨3864, 3865, .carried⟩, ⟨3893, 3897, .carried⟩,
    ⟨3953, 3966, .carried⟩, ⟨3968, 3975, .carried⟩, ⟨3981, 4038, .carried⟩, ⟨4141, 4144, .carried⟩,
    ⟨4146, 4151, .carried⟩, ⟨4153, 4154, .carried⟩, ⟨4157, 4158, .carried⟩, ⟨4184, 4185, .carried⟩,
    ⟨4190, 4192, .carried⟩, ⟨4209, 4212, .carried⟩, ⟨4226, 4226, .carried⟩, ⟨4229, 4230, .carried⟩,
    ⟨4237, 4237, .carried⟩, ⟨4253, 4253, .carried⟩, ⟨4957, 4959, .carried⟩, ⟨5906, 5908, .carried⟩,
    ⟨5938, 5939, .carried⟩, ⟨5970, 5971, .carried⟩, ⟨6002, 6003, .carried⟩, ⟨6071, 6077, .carried⟩,
    ⟨6086, 6086, .carried⟩, ⟨6089, 6099, .carried⟩, ⟨6109, 6109, .carried⟩, ⟨6277, 6278, .carried⟩,
    ⟨6313, 6313, .carried⟩, ⟨6432, 6434, .carried⟩, ⟨6439, 6440, .carried⟩, ⟨6450, 6450, .carried⟩,
    ⟨6457, 6459, .carried⟩, ⟨6679, 6680, .carried⟩, ⟨6683, 6683, .carried⟩, ⟨6742, 6742, .carried⟩,
    ⟨6744, 6752, .carried⟩, ⟨6754, 6754, .carried⟩, ⟨6757, 6764, .carried⟩, ⟨6771, 6783, .carried⟩,
    ⟨6832, 6862, .carried⟩, ⟨6863, 6891, .unknown⟩, ⟨6912, 6915, .carried⟩, ⟨6964, 6964, .carried⟩,
    ⟨6966, 6970, .carried⟩, ⟨6972, 6972, .carried⟩, ⟨6978, 6978, .carried⟩, ⟨7019, 7041, .carried⟩,
    ⟨7074, 7077, .carried⟩, ⟨7080, 7081, .carried⟩, ⟨7083, 7085, .carried⟩, ⟨7142, 7142, .carried⟩,
    ⟨7144, 7145, .carried⟩, ⟨7149, 7149, .carried⟩, ⟨7151, 7153, .carried⟩, ⟨7212, 7219, .carried⟩,
    ⟨7222, 7223, .carried⟩, ⟨7306, 7306, .unknown⟩, ⟨7376, 7392, .carried⟩, ⟨7394, 7400, .carried⟩,
    ⟨7405, 7405, .carried⟩, ⟨7412, 7412, .carried⟩, ⟨7416, 7417, .carried⟩, ⟨7616, 7679, .carried⟩,
    ⟨8204, 8205, .neutral⟩, ⟨11503, 11505, .carried⟩, ⟨11647, 11647, .carried⟩,
    ⟨11744, 11775, .carried⟩, ⟨11823, 11823, .neutral⟩, ⟨12330, 12333, .carried⟩,
    ⟨12441, 12442, .carried⟩, ⟨12539, 12539, .neutral⟩, ⟨42607, 42621, .carried⟩,
    ⟨42623, 42623, .neutral⟩, ⟨42654, 42655, .carried⟩, ⟨42736, 42737, .carried⟩,
    ⟨42775, 42783, .neutral⟩, ⟨42888, 42888, .neutral⟩, ⟨42957, 42959, .unknown⟩,
    ⟨42971, 42971, .unknown⟩, ⟨43010, 43010, .carried⟩, ⟨43014, 43014, .carried⟩,
    ⟨43019, 43019, .carried⟩, ⟨43045, 43046, .carried⟩, ⟨43052, 43052, .carried⟩,
    ⟨43204, 43205, .carried⟩, ⟨43232, 43249, .carried⟩, ⟨43263, 43263, .carried⟩,
    ⟨43302, 43309, .carried⟩, ⟨43335, 43345, .carried⟩, ⟨43392, 43394, .carried⟩,
    ⟨43443, 43443, .carried⟩, ⟨43446, 43449, .carried⟩, ⟨43452, 43453, .carried⟩,
    ⟨43493, 43493, .carried⟩, ⟨43561, 43566, .carried⟩, ⟨43569, 43570, .carried⟩,
    ⟨43573, 43574, .carried⟩, ⟨43587, 43587, .carried⟩, ⟨43596, 43596, .carried⟩,
    ⟨43644, 43644, .carried⟩, ⟨43696, 43696, .carried⟩, ⟨43698, 43700, .carried⟩,
    ⟨43703, 43704, .carried⟩, ⟨43710, 43711, .carried⟩, ⟨43713, 43713, .carried⟩,
    ⟨43756, 43757, .carried⟩, ⟨43766, 43766, .carried⟩, ⟨44005, 44005, .carried⟩,
    ⟨44008, 44008, .carried⟩, ⟨44013, 44013, .carried⟩, ⟨64286, 65071, .carried⟩,
    ⟨65139, 65139, .right⟩, ⟨66045, 66045, .carried⟩, ⟨66272, 66272, .carried⟩,
    ⟨66422, 66426, .carried⟩, ⟨67008, 67059, .unknown⟩, ⟨67584, 67897, .right⟩,
    ⟨67904, 67929, .unknown⟩, ⟨67968, 68096, .right⟩, ⟨68097, 68111, .carried⟩,
    ⟨68112, 68149, .right⟩, ⟨68152, 68159, .carried⟩, ⟨68192, 68324, .right⟩,
    ⟨68325, 68326, .carried⟩, ⟨68352, 68899, .right⟩, ⟨68900, 68903, .carried⟩,
    ⟨68912, 68921, .arabicNumber⟩, ⟨68928, 68997, .unknown⟩, ⟨69248, 69289, .right⟩,
    ⟨69291, 69292, .carried⟩, ⟨69296, 69297, .right⟩, ⟨69314, 69375, .unknown⟩,
    ⟨69376, 69445, .right⟩, ⟨69446, 69456, .carried⟩, ⟨69488, 69505, .right⟩,
    ⟨69506, 69509, .carried⟩, ⟨69552, 69622, .right⟩, ⟨69633, 69633, .carried⟩,
    ⟨69688, 69702, .carried⟩, ⟨69744, 69744, .carried⟩, ⟨69747, 69748, .carried⟩,
    ⟨69759, 69761, .carried⟩, ⟨69811, 69814, .carried⟩, ⟨69817, 69826, .carried⟩,
    ⟨69888, 69890, .carried⟩, ⟨69927, 69931, .carried⟩, ⟨69933, 69940, .carried⟩,
    ⟨70003, 70003, .carried⟩, ⟨70016, 70017, .carried⟩, ⟨70070, 70078, .carried⟩,
    ⟨70089, 70092, .carried⟩, ⟨70095, 70095, .carried⟩, ⟨70191, 70193, .carried⟩,
    ⟨70196, 70196, .carried⟩, ⟨70198, 70206, .carried⟩, ⟨70207, 70209, .unknown⟩,
    ⟨70367, 70367, .carried⟩, ⟨70371, 70378, .carried⟩, ⟨70400, 70401, .carried⟩,
    ⟨70459, 70460, .carried⟩, ⟨70464, 70464, .carried⟩, ⟨70502, 70516, .carried⟩,
    ⟨70528, 70626, .unknown⟩, ⟨70712, 70719, .carried⟩, ⟨70722, 70724, .carried⟩,
    ⟨70726, 70726, .carried⟩, ⟨70750, 70750, .carried⟩, ⟨70835, 70840, .carried⟩,
    ⟨70842, 70842, .carried⟩, ⟨70847, 70848, .carried⟩, ⟨70850, 70851, .carried⟩,
    ⟨71090, 71093, .carried⟩, ⟨71100, 71101, .carried⟩, ⟨71103, 71104, .carried⟩,
    ⟨71132, 71133, .carried⟩, ⟨71219, 71226, .carried⟩, ⟨71229, 71229, .carried⟩,
    ⟨71231, 71232, .carried⟩, ⟨71339, 71339, .carried⟩, ⟨71341, 71341, .carried⟩,
    ⟨71344, 71349, .carried⟩, ⟨71351, 71351, .carried⟩, ⟨71376, 71395, .unknown⟩,
    ⟨71453, 71455, .carried⟩, ⟨71458, 71461, .carried⟩, ⟨71463, 71467, .carried⟩,
    ⟨71727, 71735, .carried⟩, ⟨71737, 71738, .carried⟩, ⟨71995, 71996, .carried⟩,
    ⟨71998, 71998, .carried⟩, ⟨72003, 72003, .carried⟩, ⟨72148, 72155, .carried⟩,
    ⟨72160, 72160, .carried⟩, ⟨72193, 72198, .carried⟩, ⟨72201, 72202, .carried⟩,
    ⟨72243, 72248, .carried⟩, ⟨72251, 72263, .carried⟩, ⟨72273, 72278, .carried⟩,
    ⟨72281, 72283, .carried⟩, ⟨72330, 72342, .carried⟩, ⟨72344, 72345, .carried⟩,
    ⟨72544, 72697, .unknown⟩, ⟨72752, 72765, .carried⟩, ⟨72850, 72871, .carried⟩,
    ⟨72874, 72880, .carried⟩, ⟨72882, 72883, .carried⟩, ⟨72885, 72886, .carried⟩,
    ⟨73009, 73029, .carried⟩, ⟨73031, 73031, .carried⟩, ⟨73104, 73105, .carried⟩,
    ⟨73109, 73109, .carried⟩, ⟨73111, 73111, .carried⟩, ⟨73136, 73193, .unknown⟩,
    ⟨73459, 73460, .carried⟩, ⟨73472, 73562, .unknown⟩, ⟨78895, 82938, .unknown⟩,
    ⟨90368, 90425, .unknown⟩, ⟨92912, 92916, .carried⟩, ⟨92976, 92982, .carried⟩,
    ⟨93504, 93561, .unknown⟩, ⟨93883, 93907, .unknown⟩, ⟨94031, 94031, .carried⟩,
    ⟨94095, 94098, .carried⟩, ⟨94180, 94180, .carried⟩, ⟨94194, 94195, .unknown⟩,
    ⟨100344, 100351, .unknown⟩, ⟨101631, 101631, .unknown⟩, ⟨101641, 101874, .unknown⟩,
    ⟨110898, 110898, .unknown⟩, ⟨110933, 110933, .unknown⟩, ⟨113821, 121519, .carried⟩,
    ⟨122661, 122666, .unknown⟩, ⟨122880, 122922, .carried⟩, ⟨123023, 123023, .unknown⟩,
    ⟨123184, 123190, .carried⟩, ⟨123566, 123566, .carried⟩, ⟨123628, 123631, .carried⟩,
    ⟨124112, 124671, .unknown⟩, ⟨124928, 125124, .right⟩, ⟨125136, 125142, .carried⟩,
    ⟨125218, 125251, .right⟩, ⟨125252, 125258, .carried⟩, ⟨125259, 125273, .right⟩,
    ⟨177977, 177983, .unknown⟩, ⟨183970, 183981, .unknown⟩, ⟨191472, 192093, .unknown⟩,
    ⟨201552, 210041, .unknown⟩]

def direction (c : Char) : Direction :=
  match directionRuns.find? fun run => run.first ≤ c.toNat && c.toNat ≤ run.last with
  | some run => run.direction
  | none => .left

end BrowserFlow.Text
