/-
**Characters of domain names.**

Some characters do not count in a domain name, some stand for others, and some have no place in one.
What stands for a character that is not ASCII is not listed: no rule about names depends on it.

Main definitions:

* `HookBridge.Http.Domain.ignored` — characters that do not count;
* `HookBridge.Http.Domain.unfit` — characters with no place in a name;
* `HookBridge.Http.Domain.marks` — characters that need one before them;
* `HookBridge.Http.Domain.plainForms` — characters that stand for ASCII texts.
-/

set_option relaxedAutoImplicit false
set_option autoImplicit false

namespace HookBridge

namespace Http

namespace Domain

/-- The first and the last code point of each range of characters that do not count. -/
def ignored : List (Nat × Nat) :=
  [(173, 173), (847, 847), (6155, 6157), (6159, 6159), (8203, 8203), (8288, 8288), (8292, 8292),
   (65024, 65039), (65279, 65279), (113824, 113827), (917760, 917999)]

/-- The first and the last code point of each range of characters, none of them ASCII, that have no
place in a name. -/
def unfit : List (Nat × Nat) :=
  [(128, 160), (168, 168), (175, 175), (180, 180), (184, 184), (728, 733), (888, 890), (896, 901),
   (907, 907), (909, 909), (930, 930), (1328, 1328), (1367, 1368), (1419, 1420), (1424, 1424),
   (1480, 1487), (1515, 1518), (1525, 1541), (1564, 1564), (1757, 1757), (1806, 1807),
   (1867, 1868), (1970, 1983), (2043, 2044), (2094, 2095), (2111, 2111), (2140, 2141),
   (2143, 2143), (2155, 2159), (2192, 2198), (2274, 2274), (2436, 2436), (2445, 2446),
   (2449, 2450), (2473, 2473), (2481, 2481), (2483, 2485), (2490, 2491), (2501, 2502),
   (2505, 2506), (2511, 2518), (2520, 2523), (2526, 2526), (2532, 2533), (2559, 2560),
   (2564, 2564), (2571, 2574), (2577, 2578), (2601, 2601), (2609, 2609), (2612, 2612),
   (2615, 2615), (2618, 2619), (2621, 2621), (2627, 2630), (2633, 2634), (2638, 2640),
   (2642, 2648), (2653, 2653), (2655, 2661), (2679, 2688), (2692, 2692), (2702, 2702),
   (2706, 2706), (2729, 2729), (2737, 2737), (2740, 2740), (2746, 2747), (2758, 2758),
   (2762, 2762), (2766, 2767), (2769, 2783), (2788, 2789), (2802, 2808), (2816, 2816),
   (2820, 2820), (2829, 2830), (2833, 2834), (2857, 2857), (2865, 2865), (2868, 2868),
   (2874, 2875), (2885, 2886), (2889, 2890), (2894, 2900), (2904, 2907), (2910, 2910),
   (2916, 2917), (2936, 2945), (2948, 2948), (2955, 2957), (2961, 2961), (2966, 2968),
   (2971, 2971), (2973, 2973), (2976, 2978), (2981, 2983), (2987, 2989), (3002, 3005),
   (3011, 3013), (3017, 3017), (3022, 3023), (3025, 3030), (3032, 3045), (3067, 3071),
   (3085, 3085), (3089, 3089), (3113, 3113), (3130, 3131), (3141, 3141), (3145, 3145),
   (3150, 3156), (3159, 3159), (3163, 3163), (3166, 3167), (3172, 3173), (3184, 3190),
   (3213, 3213), (3217, 3217), (3241, 3241), (3252, 3252), (3258, 3259), (3269, 3269),
   (3273, 3273), (3278, 3284), (3287, 3291), (3295, 3295), (3300, 3301), (3312, 3312),
   (3316, 3327), (3341, 3341), (3345, 3345), (3397, 3397), (3401, 3401), (3408, 3411),
   (3428, 3429), (3456, 3456), (3460, 3460), (3479, 3481), (3506, 3506), (3516, 3516),
   (3518, 3519), (3527, 3529), (3531, 3534), (3541, 3541), (3543, 3543), (3552, 3557),
   (3568, 3569), (3573, 3584), (3643, 3646), (3676, 3712), (3715, 3715), (3717, 3717),
   (3723, 3723), (3748, 3748), (3750, 3750), (3774, 3775), (3781, 3781), (3783, 3783),
   (3791, 3791), (3802, 3803), (3808, 3839), (3912, 3912), (3949, 3952), (3992, 3992),
   (4029, 4029), (4045, 4045), (4059, 4095), (4294, 4294), (4296, 4300), (4302, 4303),
   (4447, 4448), (4681, 4681), (4686, 4687), (4695, 4695), (4697, 4697), (4702, 4703),
   (4745, 4745), (4750, 4751), (4785, 4785), (4790, 4791), (4799, 4799), (4801, 4801),
   (4806, 4807), (4823, 4823), (4881, 4881), (4886, 4887), (4955, 4956), (4989, 4991),
   (5018, 5023), (5110, 5111), (5118, 5119), (5760, 5760), (5789, 5791), (5881, 5887),
   (5910, 5918), (5943, 5951), (5972, 5983), (5997, 5997), (6001, 6001), (6004, 6015),
   (6068, 6069), (6110, 6111), (6122, 6127), (6138, 6143), (6150, 6150), (6158, 6158),
   (6170, 6175), (6265, 6271), (6315, 6319), (6390, 6399), (6431, 6431), (6444, 6447),
   (6460, 6463), (6465, 6467), (6510, 6511), (6517, 6527), (6572, 6575), (6602, 6607),
   (6619, 6621), (6684, 6685), (6751, 6751), (6781, 6782), (6794, 6799), (6810, 6815),
   (6830, 6831), (6878, 6879), (6892, 6911), (6989, 6989), (7156, 7163), (7224, 7226),
   (7242, 7244), (7307, 7311), (7355, 7356), (7368, 7375), (7419, 7423), (7958, 7959),
   (7966, 7967), (8006, 8007), (8014, 8015), (8024, 8024), (8026, 8026), (8028, 8028),
   (8030, 8030), (8062, 8063), (8117, 8117), (8125, 8125), (8127, 8129), (8133, 8133),
   (8141, 8143), (8148, 8149), (8156, 8159), (8173, 8174), (8176, 8177), (8181, 8181),
   (8189, 8202), (8204, 8207), (8215, 8215), (8228, 8230), (8232, 8239), (8254, 8254),
   (8263, 8265), (8287, 8287), (8289, 8291), (8293, 8303), (8306, 8307), (8335, 8335),
   (8349, 8351), (8386, 8399), (8433, 8449), (8453, 8454), (8588, 8591), (9258, 9279),
   (9291, 9311), (9352, 9371), (10868, 10868), (11124, 11125), (11508, 11512), (11558, 11558),
   (11560, 11564), (11566, 11567), (11624, 11630), (11633, 11646), (11671, 11679), (11687, 11687),
   (11695, 11695), (11703, 11703), (11711, 11711), (11719, 11719), (11727, 11727), (11735, 11735),
   (11743, 11743), (11870, 11903), (11930, 11930), (12020, 12031), (12246, 12283), (12288, 12288),
   (12352, 12352), (12439, 12440), (12443, 12444), (12544, 12548), (12592, 12592), (12644, 12644),
   (12687, 12687), (12774, 12782), (12831, 12831), (13250, 13250), (13255, 13255), (13272, 13272),
   (42125, 42127), (42183, 42191), (42540, 42559), (42744, 42751), (42973, 42992), (43053, 43055),
   (43066, 43071), (43128, 43135), (43206, 43213), (43226, 43231), (43348, 43358), (43389, 43391),
   (43470, 43470), (43482, 43485), (43519, 43519), (43575, 43583), (43598, 43599), (43610, 43611),
   (43715, 43738), (43767, 43776), (43783, 43784), (43791, 43792), (43799, 43807), (43815, 43815),
   (43823, 43823), (43884, 43887), (44014, 44015), (44026, 44031), (55204, 55215), (55239, 55242),
   (55292, 63743), (64110, 64111), (64218, 64255), (64263, 64274), (64280, 64284), (64311, 64311),
   (64317, 64317), (64319, 64319), (64322, 64322), (64325, 64325), (64606, 64611), (64976, 65007),
   (65018, 65019), (65042, 65043), (65046, 65046), (65049, 65055), (65072, 65072), (65095, 65100),
   (65106, 65107), (65109, 65110), (65119, 65119), (65124, 65125), (65127, 65128), (65130, 65136),
   (65138, 65138), (65140, 65142), (65144, 65144), (65146, 65146), (65148, 65148), (65150, 65150),
   (65277, 65278), (65280, 65280), (65283, 65283), (65285, 65285), (65295, 65295), (65306, 65306),
   (65308, 65308), (65310, 65312), (65339, 65342), (65372, 65372), (65440, 65440), (65471, 65473),
   (65480, 65481), (65488, 65489), (65496, 65497), (65501, 65503), (65507, 65507), (65511, 65511),
   (65519, 65535), (65548, 65548), (65575, 65575), (65595, 65595), (65598, 65598), (65614, 65615),
   (65630, 65663), (65787, 65791), (65795, 65798), (65844, 65846), (65935, 65935), (65949, 65951),
   (65953, 65999), (66046, 66175), (66205, 66207), (66257, 66271), (66300, 66303), (66340, 66348),
   (66379, 66383), (66427, 66431), (66462, 66462), (66500, 66503), (66518, 66559), (66718, 66719),
   (66730, 66735), (66772, 66775), (66812, 66815), (66856, 66863), (66916, 66926), (66939, 66939),
   (66955, 66955), (66963, 66963), (66966, 66966), (66978, 66978), (66994, 66994), (67002, 67002),
   (67005, 67007), (67060, 67071), (67383, 67391), (67414, 67423), (67432, 67455), (67462, 67462),
   (67505, 67505), (67515, 67583), (67590, 67591), (67593, 67593), (67638, 67638), (67641, 67643),
   (67645, 67646), (67670, 67670), (67743, 67750), (67760, 67807), (67827, 67827), (67830, 67834),
   (67868, 67870), (67898, 67902), (67930, 67967), (68024, 68027), (68048, 68049), (68100, 68100),
   (68103, 68107), (68116, 68116), (68120, 68120), (68150, 68151), (68155, 68158), (68169, 68175),
   (68185, 68191), (68256, 68287), (68327, 68330), (68343, 68351), (68406, 68408), (68438, 68439),
   (68467, 68471), (68498, 68504), (68509, 68520), (68528, 68607), (68681, 68735), (68787, 68799),
   (68851, 68857), (68904, 68911), (68922, 68927), (68966, 68968), (68998, 69005), (69008, 69215),
   (69247, 69247), (69290, 69290), (69294, 69295), (69298, 69313), (69320, 69327), (69337, 69369),
   (69416, 69423), (69466, 69487), (69514, 69551), (69580, 69599), (69623, 69631), (69710, 69713),
   (69750, 69758), (69821, 69821), (69827, 69839), (69865, 69871), (69882, 69887), (69941, 69941),
   (69960, 69967), (70007, 70015), (70112, 70112), (70133, 70143), (70162, 70162), (70210, 70271),
   (70279, 70279), (70281, 70281), (70286, 70286), (70302, 70302), (70314, 70319), (70379, 70383),
   (70394, 70399), (70404, 70404), (70413, 70414), (70417, 70418), (70441, 70441), (70449, 70449),
   (70452, 70452), (70458, 70458), (70469, 70470), (70473, 70474), (70478, 70479), (70481, 70486),
   (70488, 70492), (70500, 70501), (70509, 70511), (70517, 70527), (70538, 70538), (70540, 70541),
   (70543, 70543), (70582, 70582), (70593, 70593), (70595, 70596), (70598, 70598), (70603, 70603),
   (70614, 70614), (70617, 70624), (70627, 70655), (70748, 70748), (70754, 70783), (70856, 70863),
   (70874, 71039), (71094, 71095), (71134, 71167), (71237, 71247), (71258, 71263), (71277, 71295),
   (71354, 71359), (71370, 71375), (71396, 71423), (71451, 71452), (71468, 71471), (71495, 71679),
   (71740, 71839), (71923, 71934), (71943, 71944), (71946, 71947), (71956, 71956), (71959, 71959),
   (71990, 71990), (71993, 71994), (72007, 72015), (72026, 72095), (72104, 72105), (72152, 72153),
   (72165, 72191), (72264, 72271), (72355, 72367), (72441, 72447), (72458, 72543), (72552, 72639),
   (72674, 72687), (72698, 72703), (72713, 72713), (72759, 72759), (72774, 72783), (72813, 72815),
   (72848, 72849), (72872, 72872), (72887, 72959), (72967, 72967), (72970, 72970), (73015, 73017),
   (73019, 73019), (73022, 73022), (73032, 73039), (73050, 73055), (73062, 73062), (73065, 73065),
   (73103, 73103), (73106, 73106), (73113, 73119), (73130, 73135), (73180, 73183), (73194, 73439),
   (73465, 73471), (73489, 73489), (73531, 73533), (73563, 73647), (73649, 73663), (73714, 73726),
   (74650, 74751), (74863, 74863), (74869, 74879), (75076, 77711), (77811, 77823), (78896, 78911),
   (78934, 78943), (82939, 82943), (83527, 90367), (90426, 92159), (92729, 92735), (92767, 92767),
   (92778, 92781), (92863, 92863), (92874, 92879), (92910, 92911), (92918, 92927), (92998, 93007),
   (93018, 93018), (93026, 93026), (93048, 93052), (93072, 93503), (93562, 93759), (93851, 93855),
   (93881, 93882), (93908, 93951), (94027, 94030), (94088, 94094), (94112, 94175), (94181, 94191),
   (94199, 94207), (101590, 101630), (101663, 101759), (101875, 110575), (110580, 110580),
   (110588, 110588), (110591, 110591), (110883, 110897), (110899, 110927), (110931, 110932),
   (110934, 110947), (110952, 110959), (111356, 113663), (113771, 113775), (113789, 113791),
   (113801, 113807), (113818, 113819), (113828, 117759), (118013, 118015), (118452, 118457),
   (118481, 118495), (118513, 118527), (118574, 118575), (118599, 118607), (118724, 118783),
   (119030, 119039), (119079, 119080), (119155, 119162), (119275, 119295), (119366, 119487),
   (119508, 119519), (119540, 119551), (119639, 119647), (119673, 119807), (119893, 119893),
   (119965, 119965), (119968, 119969), (119971, 119972), (119975, 119976), (119981, 119981),
   (119994, 119994), (119996, 119996), (120004, 120004), (120070, 120070), (120075, 120076),
   (120085, 120085), (120093, 120093), (120122, 120122), (120127, 120127), (120133, 120133),
   (120135, 120137), (120145, 120145), (120486, 120487), (120780, 120781), (121484, 121498),
   (121504, 121504), (121520, 122623), (122655, 122660), (122667, 122879), (122887, 122887),
   (122905, 122906), (122914, 122914), (122917, 122917), (122923, 122927), (122990, 123022),
   (123024, 123135), (123181, 123183), (123198, 123199), (123210, 123213), (123216, 123535),
   (123567, 123583), (123642, 123646), (123648, 124111), (124154, 124367), (124411, 124414),
   (124416, 124607), (124639, 124639), (124662, 124669), (124672, 124895), (124903, 124903),
   (124908, 124908), (124911, 124911), (124927, 124927), (125125, 125126), (125143, 125183),
   (125260, 125263), (125274, 125277), (125280, 126064), (126133, 126208), (126270, 126463),
   (126468, 126468), (126496, 126496), (126499, 126499), (126501, 126502), (126504, 126504),
   (126515, 126515), (126520, 126520), (126522, 126522), (126524, 126529), (126531, 126534),
   (126536, 126536), (126538, 126538), (126540, 126540), (126544, 126544), (126547, 126547),
   (126549, 126550), (126552, 126552), (126554, 126554), (126556, 126556), (126558, 126558),
   (126560, 126560), (126563, 126563), (126565, 126566), (126571, 126571), (126579, 126579),
   (126584, 126584), (126589, 126589), (126591, 126591), (126602, 126602), (126620, 126624),
   (126628, 126628), (126634, 126634), (126652, 126703), (126706, 126975), (127020, 127023),
   (127124, 127135), (127151, 127152), (127168, 127168), (127184, 127184), (127222, 127232),
   (127406, 127461), (127491, 127503), (127548, 127551), (127561, 127567), (127570, 127583),
   (127590, 127743), (128729, 128731), (128749, 128751), (128765, 128767), (128986, 128991),
   (129004, 129007), (129009, 129023), (129036, 129039), (129096, 129103), (129114, 129119),
   (129160, 129167), (129198, 129199), (129212, 129215), (129218, 129231), (129241, 129279),
   (129624, 129631), (129646, 129647), (129661, 129663), (129675, 129677), (129735, 129735),
   (129737, 129740), (129757, 129758), (129771, 129774), (129785, 129791), (129939, 129939),
   (130043, 131071), (173792, 173823), (178206, 178207), (183982, 183983), (191457, 191471),
   (192094, 194559), (195102, 196607), (201547, 201551), (210042, 917759), (918000, 1114111)]

/-- The first and the last code point of each range of characters that combine with the one before
them. -/
def marks : List (Nat × Nat) :=
  [(768, 879), (1155, 1161), (1425, 1469), (1471, 1471), (1473, 1474), (1476, 1477), (1479, 1479),
   (1552, 1562), (1611, 1631), (1648, 1648), (1750, 1756), (1759, 1764), (1767, 1768),
   (1770, 1773), (1809, 1809), (1840, 1866), (1958, 1968), (2027, 2035), (2045, 2045),
   (2070, 2073), (2075, 2083), (2085, 2087), (2089, 2093), (2137, 2139), (2199, 2207),
   (2250, 2273), (2275, 2307), (2362, 2364), (2366, 2383), (2385, 2391), (2402, 2403),
   (2433, 2435), (2492, 2492), (2494, 2500), (2503, 2504), (2507, 2509), (2519, 2519),
   (2530, 2531), (2558, 2558), (2561, 2563), (2620, 2620), (2622, 2626), (2631, 2632),
   (2635, 2637), (2641, 2641), (2672, 2673), (2677, 2677), (2689, 2691), (2748, 2748),
   (2750, 2757), (2759, 2761), (2763, 2765), (2786, 2787), (2810, 2815), (2817, 2819),
   (2876, 2876), (2878, 2884), (2887, 2888), (2891, 2893), (2901, 2903), (2914, 2915),
   (2946, 2946), (3006, 3010), (3014, 3016), (3018, 3021), (3031, 3031), (3072, 3076),
   (3132, 3132), (3134, 3140), (3142, 3144), (3146, 3149), (3157, 3158), (3170, 3171),
   (3201, 3203), (3260, 3260), (3262, 3268), (3270, 3272), (3274, 3277), (3285, 3286),
   (3298, 3299), (3315, 3315), (3328, 3331), (3387, 3388), (3390, 3396), (3398, 3400),
   (3402, 3405), (3415, 3415), (3426, 3427), (3457, 3459), (3530, 3530), (3535, 3540),
   (3542, 3542), (3544, 3551), (3570, 3571), (3633, 3633), (3636, 3642), (3655, 3662),
   (3761, 3761), (3764, 3772), (3784, 3790), (3864, 3865), (3893, 3893), (3895, 3895),
   (3897, 3897), (3902, 3903), (3953, 3972), (3974, 3975), (3981, 3991), (3993, 4028),
   (4038, 4038), (4139, 4158), (4182, 4185), (4190, 4192), (4194, 4196), (4199, 4205),
   (4209, 4212), (4226, 4237), (4239, 4239), (4250, 4253), (4957, 4959), (5906, 5909),
   (5938, 5940), (5970, 5971), (6002, 6003), (6068, 6099), (6109, 6109), (6155, 6157),
   (6159, 6159), (6277, 6278), (6313, 6313), (6432, 6443), (6448, 6459), (6679, 6683),
   (6741, 6750), (6752, 6780), (6783, 6783), (6832, 6877), (6880, 6891), (6912, 6916),
   (6964, 6980), (7019, 7027), (7040, 7042), (7073, 7085), (7142, 7155), (7204, 7223),
   (7376, 7378), (7380, 7400), (7405, 7405), (7412, 7412), (7415, 7417), (7616, 7679),
   (8400, 8432), (11503, 11505), (11647, 11647), (11744, 11775), (12330, 12335), (12441, 12442),
   (42607, 42610), (42612, 42621), (42654, 42655), (42736, 42737), (43010, 43010), (43014, 43014),
   (43019, 43019), (43043, 43047), (43052, 43052), (43136, 43137), (43188, 43205), (43232, 43249),
   (43263, 43263), (43302, 43309), (43335, 43347), (43392, 43395), (43443, 43456), (43493, 43493),
   (43561, 43574), (43587, 43587), (43596, 43597), (43643, 43645), (43696, 43696), (43698, 43700),
   (43703, 43704), (43710, 43711), (43713, 43713), (43755, 43759), (43765, 43766), (44003, 44010),
   (44012, 44013), (64286, 64286), (65024, 65039), (65056, 65071), (66045, 66045), (66272, 66272),
   (66422, 66426), (68097, 68099), (68101, 68102), (68108, 68111), (68152, 68154), (68159, 68159),
   (68325, 68326), (68900, 68903), (68969, 68973), (69291, 69292), (69370, 69375), (69446, 69456),
   (69506, 69509), (69632, 69634), (69688, 69702), (69744, 69744), (69747, 69748), (69759, 69762),
   (69808, 69818), (69826, 69826), (69888, 69890), (69927, 69940), (69957, 69958), (70003, 70003),
   (70016, 70018), (70067, 70080), (70089, 70092), (70094, 70095), (70188, 70199), (70206, 70206),
   (70209, 70209), (70367, 70378), (70400, 70403), (70459, 70460), (70462, 70468), (70471, 70472),
   (70475, 70477), (70487, 70487), (70498, 70499), (70502, 70508), (70512, 70516), (70584, 70592),
   (70594, 70594), (70597, 70597), (70599, 70602), (70604, 70608), (70610, 70610), (70625, 70626),
   (70709, 70726), (70750, 70750), (70832, 70851), (71087, 71093), (71096, 71104), (71132, 71133),
   (71216, 71232), (71339, 71351), (71453, 71467), (71724, 71738), (71984, 71989), (71991, 71992),
   (71995, 71998), (72000, 72000), (72002, 72003), (72145, 72151), (72154, 72160), (72164, 72164),
   (72193, 72202), (72243, 72249), (72251, 72254), (72263, 72263), (72273, 72283), (72330, 72345),
   (72544, 72551), (72751, 72758), (72760, 72767), (72850, 72871), (72873, 72886), (73009, 73014),
   (73018, 73018), (73020, 73021), (73023, 73029), (73031, 73031), (73098, 73102), (73104, 73105),
   (73107, 73111), (73459, 73462), (73472, 73473), (73475, 73475), (73524, 73530), (73534, 73538),
   (73562, 73562), (78912, 78912), (78919, 78933), (90398, 90415), (92912, 92916), (92976, 92982),
   (94031, 94031), (94033, 94087), (94095, 94098), (94180, 94180), (94192, 94193),
   (113821, 113822), (118528, 118573), (118576, 118598), (119141, 119145), (119149, 119154),
   (119163, 119170), (119173, 119179), (119210, 119213), (119362, 119364), (121344, 121398),
   (121403, 121452), (121461, 121461), (121476, 121476), (121499, 121503), (121505, 121519),
   (122880, 122886), (122888, 122904), (122907, 122913), (122915, 122916), (122918, 122922),
   (123023, 123023), (123184, 123190), (123566, 123566), (123628, 123631), (124140, 124143),
   (124398, 124399), (124643, 124643), (124646, 124646), (124654, 124655), (124661, 124661),
   (125136, 125142), (125252, 125258), (917760, 917999)]

/-- Characters that stand for ASCII texts: the first of a run of characters, their number, and the
text of the first.  The texts of the others follow in ASCII order. -/
def plainForms : List (Nat × Nat × String) :=
  [(170, 1, "a"), (178, 2, "2"), (185, 1, "1"), (186, 1, "o"), (306, 1, "ij"), (307, 1, "ij"),
   (383, 1, "s"), (455, 1, "lj"), (456, 1, "lj"), (457, 1, "lj"), (458, 1, "nj"), (459, 1, "nj"),
   (460, 1, "nj"), (497, 1, "dz"), (498, 1, "dz"), (499, 1, "dz"), (688, 1, "h"), (690, 1, "j"),
   (691, 1, "r"), (695, 1, "w"), (696, 1, "y"), (737, 1, "l"), (738, 1, "s"), (739, 1, "x"),
   (894, 1, ";"), (7468, 1, "a"), (7470, 1, "b"), (7472, 2, "d"), (7475, 8, "g"), (7484, 1, "o"),
   (7486, 1, "p"), (7487, 1, "r"), (7488, 2, "t"), (7490, 1, "w"), (7491, 1, "a"), (7495, 1, "b"),
   (7496, 2, "d"), (7501, 1, "g"), (7503, 1, "k"), (7504, 1, "m"), (7506, 1, "o"), (7510, 1, "p"),
   (7511, 2, "t"), (7515, 1, "v"), (7522, 1, "i"), (7523, 1, "r"), (7524, 2, "u"), (7580, 1, "c"),
   (7584, 1, "f"), (7611, 1, "z"), (7838, 1, "ss"), (8175, 1, "`"), (8252, 1, "!!"),
   (8304, 1, "0"), (8305, 1, "i"), (8308, 6, "4"), (8314, 1, "+"), (8316, 1, "="), (8317, 2, "("),
   (8319, 1, "n"), (8320, 10, "0"), (8330, 1, "+"), (8332, 1, "="), (8333, 2, "("), (8336, 1, "a"),
   (8337, 1, "e"), (8338, 1, "o"), (8339, 1, "x"), (8341, 1, "h"), (8342, 4, "k"), (8346, 1, "p"),
   (8347, 2, "s"), (8360, 1, "rs"), (8450, 1, "c"), (8458, 2, "g"), (8460, 1, "h"), (8461, 1, "h"),
   (8462, 1, "h"), (8464, 1, "i"), (8465, 1, "i"), (8466, 1, "l"), (8467, 1, "l"), (8469, 1, "n"),
   (8470, 1, "no"), (8473, 3, "p"), (8476, 1, "r"), (8477, 1, "r"), (8480, 1, "sm"),
   (8481, 1, "tel"), (8482, 1, "tm"), (8484, 1, "z"), (8488, 1, "z"), (8490, 1, "k"),
   (8492, 2, "b"), (8495, 1, "e"), (8496, 2, "e"), (8499, 1, "m"), (8500, 1, "o"), (8505, 1, "i"),
   (8507, 1, "fax"), (8517, 1, "d"), (8518, 2, "d"), (8520, 2, "i"), (8544, 1, "i"),
   (8545, 1, "ii"), (8546, 1, "iii"), (8547, 1, "iv"), (8548, 1, "v"), (8549, 1, "vi"),
   (8550, 1, "vii"), (8551, 1, "viii"), (8552, 1, "ix"), (8553, 1, "x"), (8554, 1, "xi"),
   (8555, 1, "xii"), (8556, 1, "l"), (8557, 2, "c"), (8559, 1, "m"), (8560, 1, "i"),
   (8561, 1, "ii"), (8562, 1, "iii"), (8563, 1, "iv"), (8564, 1, "v"), (8565, 1, "vi"),
   (8566, 1, "vii"), (8567, 1, "viii"), (8568, 1, "ix"), (8569, 1, "x"), (8570, 1, "xi"),
   (8571, 1, "xii"), (8572, 1, "l"), (8573, 2, "c"), (8575, 1, "m"), (9312, 9, "1"),
   (9321, 1, "10"), (9322, 1, "11"), (9323, 1, "12"), (9324, 1, "13"), (9325, 1, "14"),
   (9326, 1, "15"), (9327, 1, "16"), (9328, 1, "17"), (9329, 1, "18"), (9330, 1, "19"),
   (9331, 1, "20"), (9332, 1, "(1)"), (9333, 1, "(2)"), (9334, 1, "(3)"), (9335, 1, "(4)"),
   (9336, 1, "(5)"), (9337, 1, "(6)"), (9338, 1, "(7)"), (9339, 1, "(8)"), (9340, 1, "(9)"),
   (9341, 1, "(10)"), (9342, 1, "(11)"), (9343, 1, "(12)"), (9344, 1, "(13)"), (9345, 1, "(14)"),
   (9346, 1, "(15)"), (9347, 1, "(16)"), (9348, 1, "(17)"), (9349, 1, "(18)"), (9350, 1, "(19)"),
   (9351, 1, "(20)"), (9372, 1, "(a)"), (9373, 1, "(b)"), (9374, 1, "(c)"), (9375, 1, "(d)"),
   (9376, 1, "(e)"), (9377, 1, "(f)"), (9378, 1, "(g)"), (9379, 1, "(h)"), (9380, 1, "(i)"),
   (9381, 1, "(j)"), (9382, 1, "(k)"), (9383, 1, "(l)"), (9384, 1, "(m)"), (9385, 1, "(n)"),
   (9386, 1, "(o)"), (9387, 1, "(p)"), (9388, 1, "(q)"), (9389, 1, "(r)"), (9390, 1, "(s)"),
   (9391, 1, "(t)"), (9392, 1, "(u)"), (9393, 1, "(v)"), (9394, 1, "(w)"), (9395, 1, "(x)"),
   (9396, 1, "(y)"), (9397, 1, "(z)"), (9398, 26, "a"), (9424, 26, "a"), (9450, 1, "0"),
   (10869, 1, "=="), (10870, 1, "==="), (11388, 1, "j"), (11389, 1, "v"), (12290, 1, "."),
   (12880, 1, "pte"), (12881, 1, "21"), (12882, 1, "22"), (12883, 1, "23"), (12884, 1, "24"),
   (12885, 1, "25"), (12886, 1, "26"), (12887, 1, "27"), (12888, 1, "28"), (12889, 1, "29"),
   (12890, 1, "30"), (12891, 1, "31"), (12892, 1, "32"), (12893, 1, "33"), (12894, 1, "34"),
   (12895, 1, "35"), (12977, 1, "36"), (12978, 1, "37"), (12979, 1, "38"), (12980, 1, "39"),
   (12981, 1, "40"), (12982, 1, "41"), (12983, 1, "42"), (12984, 1, "43"), (12985, 1, "44"),
   (12986, 1, "45"), (12987, 1, "46"), (12988, 1, "47"), (12989, 1, "48"), (12990, 1, "49"),
   (12991, 1, "50"), (13004, 1, "hg"), (13005, 1, "erg"), (13006, 1, "ev"), (13007, 1, "ltd"),
   (13169, 1, "hpa"), (13170, 1, "da"), (13171, 1, "au"), (13172, 1, "bar"), (13173, 1, "ov"),
   (13174, 1, "pc"), (13175, 1, "dm"), (13176, 1, "dm2"), (13177, 1, "dm3"), (13178, 1, "iu"),
   (13184, 1, "pa"), (13185, 1, "na"), (13187, 1, "ma"), (13188, 1, "ka"), (13189, 1, "kb"),
   (13190, 1, "mb"), (13191, 1, "gb"), (13192, 1, "cal"), (13193, 1, "kcal"), (13194, 1, "pf"),
   (13195, 1, "nf"), (13198, 1, "mg"), (13199, 1, "kg"), (13200, 1, "hz"), (13201, 1, "khz"),
   (13202, 1, "mhz"), (13203, 1, "ghz"), (13204, 1, "thz"), (13206, 1, "ml"), (13207, 1, "dl"),
   (13208, 1, "kl"), (13209, 1, "fm"), (13210, 1, "nm"), (13212, 1, "mm"), (13213, 1, "cm"),
   (13214, 1, "km"), (13215, 1, "mm2"), (13216, 1, "cm2"), (13217, 1, "m2"), (13218, 1, "km2"),
   (13219, 1, "mm3"), (13220, 1, "cm3"), (13221, 1, "m3"), (13222, 1, "km3"), (13225, 1, "pa"),
   (13226, 1, "kpa"), (13227, 1, "mpa"), (13228, 1, "gpa"), (13229, 1, "rad"), (13232, 1, "ps"),
   (13233, 1, "ns"), (13235, 1, "ms"), (13236, 1, "pv"), (13237, 1, "nv"), (13239, 1, "mv"),
   (13240, 1, "kv"), (13241, 1, "mv"), (13242, 1, "pw"), (13243, 1, "nw"), (13245, 1, "mw"),
   (13246, 1, "kw"), (13247, 1, "mw"), (13251, 1, "bq"), (13252, 1, "cc"), (13253, 1, "cd"),
   (13256, 1, "db"), (13257, 1, "gy"), (13258, 1, "ha"), (13259, 1, "hp"), (13260, 1, "in"),
   (13261, 1, "kk"), (13262, 1, "km"), (13263, 1, "kt"), (13264, 1, "lm"), (13265, 1, "ln"),
   (13266, 1, "log"), (13267, 1, "lx"), (13268, 1, "mb"), (13269, 1, "mil"), (13270, 1, "mol"),
   (13271, 1, "ph"), (13273, 1, "ppm"), (13274, 1, "pr"), (13275, 1, "sr"), (13276, 1, "sv"),
   (13277, 1, "wb"), (13311, 1, "gal"), (42994, 1, "c"), (42995, 1, "f"), (42996, 1, "q"),
   (64256, 1, "ff"), (64257, 1, "fi"), (64258, 1, "fl"), (64259, 1, "ffi"), (64260, 1, "ffl"),
   (64261, 1, "st"), (64262, 1, "st"), (64297, 1, "+"), (65040, 1, ","), (65044, 1, ";"),
   (65045, 1, "!"), (65075, 1, "_"), (65076, 1, "_"), (65077, 2, "("), (65079, 1, "\x7b"),
   (65080, 1, "\x7d"), (65101, 1, "_"), (65102, 1, "_"), (65103, 1, "_"), (65104, 1, ","),
   (65108, 1, ";"), (65111, 1, "!"), (65113, 2, "("), (65115, 1, "\x7b"), (65116, 1, "\x7d"),
   (65120, 1, "&"), (65121, 2, "*"), (65123, 1, "-"), (65126, 1, "="), (65129, 1, "$"),
   (65281, 2, "!"), (65284, 1, "$"), (65286, 9, "&"), (65296, 10, "0"), (65307, 1, ";"),
   (65309, 1, "="), (65313, 26, "a"), (65343, 29, "_"), (65373, 2, "\x7d"), (65377, 1, "."),
   (67493, 1, "q"), (119808, 26, "a"), (119834, 26, "a"), (119860, 26, "a"), (119886, 7, "a"),
   (119894, 18, "i"), (119912, 26, "a"), (119938, 26, "a"), (119964, 1, "a"), (119966, 2, "c"),
   (119970, 1, "g"), (119973, 2, "j"), (119977, 4, "n"), (119982, 8, "s"), (119990, 4, "a"),
   (119995, 1, "f"), (119997, 7, "h"), (120005, 11, "p"), (120016, 26, "a"), (120042, 26, "a"),
   (120068, 2, "a"), (120071, 4, "d"), (120077, 8, "j"), (120086, 7, "s"), (120094, 26, "a"),
   (120120, 2, "a"), (120123, 4, "d"), (120128, 5, "i"), (120134, 1, "o"), (120138, 7, "s"),
   (120146, 26, "a"), (120172, 26, "a"), (120198, 26, "a"), (120224, 26, "a"), (120250, 26, "a"),
   (120276, 26, "a"), (120302, 26, "a"), (120328, 26, "a"), (120354, 26, "a"), (120380, 26, "a"),
   (120406, 26, "a"), (120432, 26, "a"), (120458, 26, "a"), (120782, 10, "0"), (120792, 10, "0"),
   (120802, 10, "0"), (120812, 10, "0"), (120822, 10, "0"), (127233, 1, "0,"), (127234, 1, "1,"),
   (127235, 1, "2,"), (127236, 1, "3,"), (127237, 1, "4,"), (127238, 1, "5,"), (127239, 1, "6,"),
   (127240, 1, "7,"), (127241, 1, "8,"), (127242, 1, "9,"), (127248, 1, "(a)"), (127249, 1, "(b)"),
   (127250, 1, "(c)"), (127251, 1, "(d)"), (127252, 1, "(e)"), (127253, 1, "(f)"),
   (127254, 1, "(g)"), (127255, 1, "(h)"), (127256, 1, "(i)"), (127257, 1, "(j)"),
   (127258, 1, "(k)"), (127259, 1, "(l)"), (127260, 1, "(m)"), (127261, 1, "(n)"),
   (127262, 1, "(o)"), (127263, 1, "(p)"), (127264, 1, "(q)"), (127265, 1, "(r)"),
   (127266, 1, "(s)"), (127267, 1, "(t)"), (127268, 1, "(u)"), (127269, 1, "(v)"),
   (127270, 1, "(w)"), (127271, 1, "(x)"), (127272, 1, "(y)"), (127273, 1, "(z)"),
   (127275, 1, "c"), (127276, 1, "r"), (127277, 1, "cd"), (127278, 1, "wz"), (127280, 26, "a"),
   (127306, 1, "hv"), (127307, 1, "mv"), (127308, 1, "sd"), (127309, 1, "ss"), (127310, 1, "ppv"),
   (127311, 1, "wc"), (127338, 1, "mc"), (127339, 1, "md"), (127340, 1, "mr"), (127376, 1, "dj"),
   (130032, 10, "0")]

end Domain

end Http

end HookBridge
