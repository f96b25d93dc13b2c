import OpticalTestbed.Text.Chars
import OpticalTestbed.Text.DecimalDigit
/-!
How each character of a host name is read: as itself, as other characters, as nothing, or not at
all. Capitals, wide letters, digits in circles and the like are read as the plain characters that
they show.
-/
namespace OpticalTestbed.HostName

/-- Runs of the characters outside ASCII that no host name holds: unassigned ones, controls, and
those that would be read as a blank or as a mark that ends a host name. -/
def refusedRuns : List (Nat × Nat) := [
  (128, 160), (168, 168), (175, 175), (180, 180), (184, 184), (728, 733), (888, 890), (896, 901),
  (907, 907), (909, 909), (930, 930), (1328, 1328), (1367, 1368), (1419, 1420), (1424, 1424),
  (1480, 1487), (1515, 1518), (1525, 1541), (1564, 1564), (1757, 1757), (1806, 1807), (1867, 1868),
  (1970, 1983), (2043, 2044), (2094, 2095), (2111, 2111), (2140, 2141), (2143, 2143), (2155, 2159),
  (2192, 2198), (2274, 2274), (2436, 2436), (2445, 2446), (2449, 2450), (2473, 2473), (2481, 2481),
  (2483, 2485), (2490, 2491), (2501, 2502), (2505, 2506), (2511, 2518), (2520, 2523), (2526, 2526),
  (2532, 2533), (2559, 2560), (2564, 2564), (2571, 2574), (2577, 2578), (2601, 2601), (2609, 2609),
  (2612, 2612), (2615, 2615), (2618, 2619), (2621, 2621), (2627, 2630), (2633, 2634), (2638, 2640),
  (2642, 2648), (2653, 2653), (2655, 2661), (2679, 2688), (2692, 2692), (2702, 2702), (2706, 2706),
  (2729, 2729), (2737, 2737), (2740, 2740), (2746, 2747), (2758, 2758), (2762, 2762), (2766, 2767),
  (2769, 2783), (2788, 2789), (2802, 2808), (2816, 2816), (2820, 2820), (2829, 2830), (2833, 2834),
  (2857, 2857), (2865, 2865), (2868, 2868), (2874, 2875), (2885, 2886), (2889, 2890), (2894, 2900),
  (2904, 2907), (2910, 2910), (2916, 2917), (2936, 2945), (2948, 2948), (2955, 2957), (2961, 2961),
  (2966, 2968), (2971, 2971), (2973, 2973), (2976, 2978), (2981, 2983), (2987, 2989), (3002, 3005),
  (3011, 3013), (3017, 3017), (3022, 3023), (3025, 3030), (3032, 3045), (3067, 3071), (3085, 3085),
  (3089, 3089), (3113, 3113), (3130, 3131), (3141, 3141), (3145, 3145), (3150, 3156), (3159, 3159),
  (3163, 3163), (3166, 3167), (3172, 3173), (3184, 3190), (3213, 3213), (3217, 3217), (3241, 3241),
  (3252, 3252), (3258, 3259), (3269, 3269), (3273, 3273), (3278, 3284), (3287, 3291), (3295, 3295),
  (3300, 3301), (3312, 3312), (3316, 3327), (3341, 3341), (3345, 3345), (3397, 3397), (3401, 3401),
  (3408, 3411), (3428, 3429), (3456, 3456), (3460, 3460), (3479, 3481), (3506, 3506), (3516, 3516),
  (3518, 3519), (3527, 3529), (3531, 3534), (3541, 3541), (3543, 3543), (3552, 3557), (3568, 3569),
  (3573, 3584), (3643, 3646), (3676, 3712), (3715, 3715), (3717, 3717), (3723, 3723), (3748, 3748),
  (3750, 3750), (3774, 3775), (3781, 3781), (3783, 3783), (3791, 3791), (3802, 3803), (3808, 3839),
  (3912, 3912), (3949, 3952), (3992, 3992), (4029, 4029), (4045, 4045), (4059, 4095), (4294, 4294),
  (4296, 4300), (4302, 4303), (4681, 4681), (4686, 4687), (4695, 4695), (4697, 4697), (4702, 4703),
  (4745, 4745), (4750, 4751), (4785, 4785), (4790, 4791), (4799, 4799), (4801, 4801), (4806, 4807),
  (4823, 4823), (4881, 4881), (4886, 4887), (4955, 4956), (4989, 4991), (5018, 5023), (5110, 5111),
  (5118, 5119), (5760, 5760), (5789, 5791), (5881, 5887), (5910, 5918), (5943, 5951), (5972, 5983),
  (5997, 5997), (6001, 6001), (6004, 6015), (6110, 6111), (6122, 6127), (6138, 6143), (6170, 6175),
  (6265, 6271), (6315, 6319), (6390, 6399), (6431, 6431), (6444, 6447), (6460, 6463), (6465, 6467),
  (6510, 6511), (6517, 6527), (6572, 6575), (6602, 6607), (6619, 6621), (6684, 6685), (6751, 6751),
  (6781, 6782), (6794, 6799), (6810, 6815), (6830, 6831), (6878, 6879), (6892, 6911), (6989, 6989),
  (7156, 7163), (7224, 7226), (7242, 7244), (7307, 7311), (7355, 7356), (7368, 7375), (7419, 7423),
  (7958, 7959), (7966, 7967), (8006, 8007), (8014, 8015), (8024, 8024), (8026, 8026), (8028, 8028),
  (8030, 8030), (8062, 8063), (8117, 8117), (8125, 8125), (8127, 8129), (8133, 8133), (8141, 8143),
  (8148, 8149), (8156, 8159), (8173, 8177), (8181, 8181), (8189, 8202), (8206, 8207), (8215, 8215),
  (8228, 8230), (8232, 8239), (8254, 8254), (8263, 8265), (8287, 8287), (8293, 8297), (8306, 8307),
  (8335, 8335), (8349, 8351), (8386, 8399), (8433, 8449), (8453, 8454), (8588, 8591), (9258, 9279),
  (9291, 9311), (9352, 9371), (10868, 10868), (11124, 11125), (11508, 11512), (11558, 11558),
  (11560, 11564), (11566, 11567), (11624, 11630), (11633, 11646), (11671, 11679), (11687, 11687),
  (11695, 11695), (11703, 11703), (11711, 11711), (11719, 11719), (11727, 11727), (11735, 11735),
  (11743, 11743), (11870, 11903), (11930, 11930), (12020, 12031), (12246, 12288), (12352, 12352),
  (12439, 12440), (12443, 12444), (12544, 12548), (12592, 12592), (12687, 12687), (12774, 12783),
  (12831, 12831), (13250, 13250), (13255, 13255), (13272, 13272), (42125, 42127), (42183, 42191),
  (42540, 42559), (42744, 42751), (42973, 42992), (43053, 43055), (43066, 43071), (43128, 43135),
  (43206, 43213), (43226, 43231), (43348, 43358), (43389, 43391), (43470, 43470), (43482, 43485),
  (43519, 43519), (43575, 43583), (43598, 43599), (43610, 43611), (43715, 43738), (43767, 43776),
  (43783, 43784), (43791, 43792), (43799, 43807), (43815, 43815), (43823, 43823), (43884, 43887),
  (44014, 44015), (44026, 44031), (55204, 55215), (55239, 55242), (55292, 63743), (64110, 64111),
  (64218, 64255), (64263, 64274), (64280, 64284), (64311, 64311), (64317, 64317), (64319, 64319),
  (64322, 64322), (64325, 64325), (64606, 64611), (64976, 65007), (65018, 65019), (65042, 65043),
  (65046, 65046), (65049, 65055), (65072, 65072), (65079, 65080), (65095, 65100), (65106, 65107),
  (65109, 65110), (65115, 65116), (65119, 65119), (65127, 65128), (65130, 65136), (65138, 65138),
  (65140, 65142), (65144, 65144), (65146, 65146), (65148, 65148), (65150, 65150), (65277, 65278),
  (65280, 65280), (65282, 65283), (65285, 65285), (65295, 65295), (65306, 65306), (65311, 65312),
  (65339, 65342), (65344, 65344), (65371, 65373), (65471, 65473), (65480, 65481), (65488, 65489),
  (65496, 65497), (65501, 65503), (65507, 65507), (65511, 65511), (65519, 65535), (65548, 65548),
  (65575, 65575), (65595, 65595), (65598, 65598), (65614, 65615), (65630, 65663), (65787, 65791),
  (65795, 65798), (65844, 65846), (65935, 65935), (65949, 65951), (65953, 65999), (66046, 66175),
  (66205, 66207), (66257, 66271), (66300, 66303), (66340, 66348), (66379, 66383), (66427, 66431),
  (66462, 66462), (66500, 66503), (66518, 66559), (66718, 66719), (66730, 66735), (66772, 66775),
  (66812, 66815), (66856, 66863), (66916, 66926), (66939, 66939), (66955, 66955), (66963, 66963),
  (66966, 66966), (66978, 66978), (66994, 66994), (67002, 67002), (67005, 67007), (67060, 67071),
  (67383, 67391), (67414, 67423), (67432, 67455), (67462, 67462), (67505, 67505), (67515, 67583),
  (67590, 67591), (67593, 67593), (67638, 67638), (67641, 67643), (67645, 67646), (67670, 67670),
  (67743, 67750), (67760, 67807), (67827, 67827), (67830, 67834), (67868, 67870), (67898, 67902),
  (67930, 67967), (68024, 68027), (68048, 68049), (68100, 68100), (68103, 68107), (68116, 68116),
  (68120, 68120), (68150, 68151), (68155, 68158), (68169, 68175), (68185, 68191), (68256, 68287),
  (68327, 68330), (68343, 68351), (68406, 68408), (68438, 68439), (68467, 68471), (68498, 68504),
  (68509, 68520), (68528, 68607), (68681, 68735), (68787, 68799), (68851, 68857), (68904, 68911),
  (68922, 68927), (68966, 68968), (68998, 69005), (69008, 69215), (69247, 69247), (69290, 69290),
  (69294, 69295), (69298, 69313), (69320, 69327), (69337, 69369), (69416, 69423), (69466, 69487),
  (69514, 69551), (69580, 69599), (69623, 69631), (69710, 69713), (69750, 69758), (69821, 69821),
  (69827, 69839), (69865, 69871), (69882, 69887), (69941, 69941), (69960, 69967), (70007, 70015),
  (70112, 70112), (70133, 70143), (70162, 70162), (70210, 70271), (70279, 70279), (70281, 70281),
  (70286, 70286), (70302, 70302), (70314, 70319), (70379, 70383), (70394, 70399), (70404, 70404),
  (70413, 70414), (70417, 70418), (70441, 70441), (70449, 70449), (70452, 70452), (70458, 70458),
  (70469, 70470), (70473, 70474), (70478, 70479), (70481, 70486), (70488, 70492), (70500, 70501),
  (70509, 70511), (70517, 70527), (70538, 70538), (70540, 70541), (70543, 70543), (70582, 70582),
  (70593, 70593), (70595, 70596), (70598, 70598), (70603, 70603), (70614, 70614), (70617, 70624),
  (70627, 70655), (70748, 70748), (70754, 70783), (70856, 70863), (70874, 71039), (71094, 71095),
  (71134, 71167), (71237, 71247), (71258, 71263), (71277, 71295), (71354, 71359), (71370, 71375),
  (71396, 71423), (71451, 71452), (71468, 71471), (71495, 71679), (71740, 71839), (71923, 71934),
  (71943, 71944), (71946, 71947), (71956, 71956), (71959, 71959), (71990, 71990), (71993, 71994),
  (72007, 72015), (72026, 72095), (72104, 72105), (72152, 72153), (72165, 72191), (72264, 72271),
  (72355, 72367), (72441, 72447), (72458, 72543), (72552, 72639), (72674, 72687), (72698, 72703),
  (72713, 72713), (72759, 72759), (72774, 72783), (72813, 72815), (72848, 72849), (72872, 72872),
  (72887, 72959), (72967, 72967), (72970, 72970), (73015, 73017), (73019, 73019), (73022, 73022),
  (73032, 73039), (73050, 73055), (73062, 73062), (73065, 73065), (73103, 73103), (73106, 73106),
  (73113, 73119), (73130, 73135), (73180, 73183), (73194, 73439), (73465, 73471), (73489, 73489),
  (73531, 73533), (73563, 73647), (73649, 73663), (73714, 73726), (74650, 74751), (74863, 74863),
  (74869, 74879), (75076, 77711), (77811, 77823), (78896, 78911), (78934, 78943), (82939, 82943),
  (83527, 90367), (90426, 92159), (92729, 92735), (92767, 92767), (92778, 92781), (92863, 92863),
  (92874, 92879), (92910, 92911), (92918, 92927), (92998, 93007), (93018, 93018), (93026, 93026),
  (93048, 93052), (93072, 93503), (93562, 93759), (93851, 93855), (93881, 93882), (93908, 93951),
  (94027, 94030), (94088, 94094), (94112, 94175), (94181, 94191), (94199, 94207), (101590, 101630),
  (101663, 101759), (101875, 110575), (110580, 110580), (110588, 110588), (110591, 110591),
  (110883, 110897), (110899, 110927), (110931, 110932), (110934, 110947), (110952, 110959),
  (111356, 113663), (113771, 113775), (113789, 113791), (113801, 113807), (113818, 113819),
  (113828, 117759), (118013, 118015), (118452, 118457), (118481, 118495), (118513, 118527),
  (118574, 118575), (118599, 118607), (118724, 118783), (119030, 119039), (119079, 119080),
  (119275, 119295), (119366, 119487), (119508, 119519), (119540, 119551), (119639, 119647),
  (119673, 119807), (119893, 119893), (119965, 119965), (119968, 119969), (119971, 119972),
  (119975, 119976), (119981, 119981), (119994, 119994), (119996, 119996), (120004, 120004),
  (120070, 120070), (120075, 120076), (120085, 120085), (120093, 120093), (120122, 120122),
  (120127, 120127), (120133, 120133), (120135, 120137), (120145, 120145), (120486, 120487),
  (120780, 120781), (121484, 121498), (121504, 121504), (121520, 122623), (122655, 122660),
  (122667, 122879), (122887, 122887), (122905, 122906), (122914, 122914), (122917, 122917),
  (122923, 122927), (122990, 123022), (123024, 123135), (123181, 123183), (123198, 123199),
  (123210, 123213), (123216, 123535), (123567, 123583), (123642, 123646), (123648, 124111),
  (124154, 124367), (124411, 124414), (124416, 124607), (124639, 124639), (124662, 124669),
  (124672, 124895), (124903, 124903), (124908, 124908), (124911, 124911), (124927, 124927),
  (125125, 125126), (125143, 125183), (125260, 125263), (125274, 125277), (125280, 126064),
  (126133, 126208), (126270, 126463), (126468, 126468), (126496, 126496), (126499, 126499),
  (126501, 126502), (126504, 126504), (126515, 126515), (126520, 126520), (126522, 126522),
  (126524, 126529), (126531, 126534), (126536, 126536), (126538, 126538), (126540, 126540),
  (126544, 126544), (126547, 126547), (126549, 126550), (126552, 126552), (126554, 126554),
  (126556, 126556), (126558, 126558), (126560, 126560), (126563, 126563), (126565, 126566),
  (126571, 126571), (126579, 126579), (126584, 126584), (126589, 126589), (126591, 126591),
  (126602, 126602), (126620, 126624), (126628, 126628), (126634, 126634), (126652, 126703),
  (126706, 126975), (127020, 127023), (127124, 127135), (127151, 127152), (127168, 127168),
  (127184, 127184), (127222, 127232), (127406, 127461), (127491, 127503), (127548, 127551),
  (127561, 127567), (127570, 127583), (127590, 127743), (128729, 128731), (128749, 128751),
  (128765, 128767), (128986, 128991), (129004, 129007), (129009, 129023), (129036, 129039),
  (129096, 129103), (129114, 129119), (129160, 129167), (129198, 129199), (129212, 129215),
  (129218, 129231), (129241, 129279), (129624, 129631), (129646, 129647), (129661, 129663),
  (129675, 129677), (129735, 129735), (129737, 129740), (129757, 129758), (129771, 129774),
  (129785, 129791), (129939, 129939), (130043, 131071), (173792, 173823), (178206, 178207),
  (183982, 183983), (191457, 191471), (192094, 194559), (195102, 196607), (201547, 201551),
  (210042, 917759), (918000, 1114111)]

/-- Runs of the characters that are passed over, such as soft hyphens. -/
def droppedRuns : List (Nat × Nat) := [
  (173, 173), (847, 847), (4447, 4448), (6068, 6069), (6155, 6159), (8203, 8203), (8288, 8292),
  (8298, 8303), (12644, 12644), (65024, 65039), (65279, 65279), (65440, 65440), (113824, 113827),
  (119155, 119162), (917760, 917999)]

/-- Runs of the characters that are read as one ASCII character or as successive ones: first and
last code point, and the code point that the first is read as. -/
def asciiRuns : List (Nat × Nat × Nat) := [
  (170, 170, 97), (178, 179, 50), (185, 185, 49), (186, 186, 111), (383, 383, 115), (688, 688, 104),
  (690, 690, 106), (691, 691, 114), (695, 695, 119), (696, 696, 121), (737, 737, 108),
  (738, 738, 115), (739, 739, 120), (894, 894, 59), (7468, 7468, 97), (7470, 7470, 98),
  (7472, 7473, 100), (7475, 7482, 103), (7484, 7484, 111), (7486, 7486, 112), (7487, 7487, 114),
  (7488, 7489, 116), (7490, 7490, 119), (7491, 7491, 97), (7495, 7495, 98), (7496, 7497, 100),
  (7501, 7501, 103), (7503, 7503, 107), (7504, 7504, 109), (7506, 7506, 111), (7510, 7510, 112),
  (7511, 7512, 116), (7515, 7515, 118), (7522, 7522, 105), (7523, 7523, 114), (7524, 7525, 117),
  (7580, 7580, 99), (7584, 7584, 102), (7611, 7611, 122), (8304, 8304, 48), (8305, 8305, 105),
  (8308, 8313, 52), (8314, 8314, 43), (8316, 8316, 61), (8317, 8318, 40), (8319, 8319, 110),
  (8320, 8329, 48), (8330, 8330, 43), (8332, 8332, 61), (8333, 8334, 40), (8336, 8336, 97),
  (8337, 8337, 101), (8338, 8338, 111), (8339, 8339, 120), (8341, 8341, 104), (8342, 8345, 107),
  (8346, 8346, 112), (8347, 8348, 115), (8450, 8450, 99), (8458, 8459, 103), (8460, 8460, 104),
  (8461, 8461, 104), (8462, 8462, 104), (8464, 8464, 105), (8465, 8465, 105), (8466, 8466, 108),
  (8467, 8467, 108), (8469, 8469, 110), (8473, 8475, 112), (8476, 8476, 114), (8477, 8477, 114),
  (8484, 8484, 122), (8488, 8488, 122), (8490, 8490, 107), (8492, 8493, 98), (8495, 8495, 101),
  (8496, 8497, 101), (8499, 8499, 109), (8500, 8500, 111), (8505, 8505, 105), (8517, 8517, 100),
  (8518, 8519, 100), (8520, 8521, 105), (8544, 8544, 105), (8548, 8548, 118), (8553, 8553, 120),
  (8556, 8556, 108), (8557, 8558, 99), (8559, 8559, 109), (8560, 8560, 105), (8564, 8564, 118),
  (8569, 8569, 120), (8572, 8572, 108), (8573, 8574, 99), (8575, 8575, 109), (9312, 9320, 49),
  (9398, 9423, 97), (9424, 9449, 97), (9450, 9450, 48), (11388, 11388, 106), (11389, 11389, 118),
  (12290, 12290, 46), (42993, 42993, 115), (42994, 42994, 99), (42995, 42995, 102),
  (42996, 42996, 113), (64297, 64297, 43), (65040, 65040, 44), (65044, 65044, 59),
  (65045, 65045, 33), (65075, 65075, 95), (65076, 65076, 95), (65077, 65078, 40),
  (65101, 65101, 95), (65102, 65102, 95), (65103, 65103, 95), (65104, 65104, 44),
  (65108, 65108, 59), (65111, 65111, 33), (65113, 65114, 40), (65120, 65120, 38),
  (65121, 65122, 42), (65123, 65123, 45), (65124, 65124, 60), (65125, 65125, 62),
  (65126, 65126, 61), (65129, 65129, 36), (65281, 65281, 33), (65284, 65284, 36),
  (65286, 65294, 38), (65296, 65305, 48), (65307, 65310, 59), (65313, 65338, 97),
  (65343, 65343, 95), (65345, 65370, 97), (65374, 65374, 126), (65377, 65377, 46),
  (67493, 67493, 113), (117974, 117999, 97), (118000, 118009, 48), (119808, 119833, 97),
  (119834, 119859, 97), (119860, 119885, 97), (119886, 119892, 97), (119894, 119911, 105),
  (119912, 119937, 97), (119938, 119963, 97), (119964, 119964, 97), (119966, 119967, 99),
  (119970, 119970, 103), (119973, 119974, 106), (119977, 119980, 110), (119982, 119989, 115),
  (119990, 119993, 97), (119995, 119995, 102), (119997, 120003, 104), (120005, 120015, 112),
  (120016, 120041, 97), (120042, 120067, 97), (120068, 120069, 97), (120071, 120074, 100),
  (120077, 120084, 106), (120086, 120092, 115), (120094, 120119, 97), (120120, 120121, 97),
  (120123, 120126, 100), (120128, 120132, 105), (120134, 120134, 111), (120138, 120144, 115),
  (120146, 120171, 97), (120172, 120197, 97), (120198, 120223, 97), (120224, 120249, 97),
  (120250, 120275, 97), (120276, 120301, 97), (120302, 120327, 97), (120328, 120353, 97),
  (120354, 120379, 97), (120380, 120405, 97), (120406, 120431, 97), (120432, 120457, 97),
  (120458, 120483, 97), (120782, 120791, 48), (120792, 120801, 48), (120802, 120811, 48),
  (120812, 120821, 48), (120822, 120831, 48), (127275, 127275, 99), (127276, 127276, 114),
  (127280, 127305, 97), (130032, 130041, 48)]

/-- Words that begin with a character and go on with the several characters that it is read as. -/
def spelledLines : List String := [
  "¼1⁄4 ½1⁄2 ¾3⁄4 İi̇ Ĳij ĳij Ŀl· ŀl· ŉʼn Ǆdž ǅdž ǆdž Ǉlj ǈlj ǉlj Ǌnj ǋnj ǌnj Ǳdz ǲdz ǳdz ẚaʾ",
  "‼!! ₨rs ℃°c ℉°f №no ℠sm ℡tel ™tm ℻fax ⅐1⁄7 ⅑1⁄9 ⅒1⁄10 ⅓1⁄3 ⅔2⁄3 ⅕1⁄5 ⅖2⁄5 ⅗3⁄5 ⅘4⁄5 ⅙1⁄6",
  "⅚5⁄6 ⅛1⁄8 ⅜3⁄8 ⅝5⁄8 ⅞7⁄8 ⅟1⁄ Ⅱii Ⅲiii Ⅳiv Ⅵvi Ⅶvii Ⅷviii Ⅸix Ⅺxi Ⅻxii ⅱii ⅲiii ⅳiv ⅵvi",
  "ⅶvii ⅷviii ⅸix ⅺxi ⅻxii ↉0⁄3 ⑩10 ⑪11 ⑫12 ⑬13 ⑭14 ⑮15 ⑯16 ⑰17 ⑱18 ⑲19 ⑳20 ⑴(1) ⑵(2) ⑶(3)",
  "⑷(4) ⑸(5) ⑹(6) ⑺(7) ⑻(8) ⑼(9) ⑽(10) ⑾(11) ⑿(12) ⒀(13) ⒁(14) ⒂(15) ⒃(16) ⒄(17) ⒅(18) ⒆(19)",
  "⒇(20) ⒜(a) ⒝(b) ⒞(c) ⒟(d) ⒠(e) ⒡(f) ⒢(g) ⒣(h) ⒤(i) ⒥(j) ⒦(k) ⒧(l) ⒨(m) ⒩(n) ⒪(o) ⒫(p) ⒬(q)",
  "⒭(r) ⒮(s) ⒯(t) ⒰(u) ⒱(v) ⒲(w) ⒳(x) ⒴(y) ⒵(z) ⩵== ⩶=== ㈀(ᄀ) ㈁(ᄂ) ㈂(ᄃ) ㈃(ᄅ) ㈄(ᄆ) ㈅(ᄇ) ㈆(ᄉ)",
  "㈇(ᄋ) ㈈(ᄌ) ㈉(ᄎ) ㈊(ᄏ) ㈋(ᄐ) ㈌(ᄑ) ㈍(ᄒ) ㈎(가) ㈏(나) ㈐(다) ㈑(라) ㈒(마) ㈓(바) ㈔(사) ㈕(아) ㈖(자) ㈗(차) ㈘(카)",
  "㈙(타) ㈚(파) ㈛(하) ㈜(주) ㈝(오전) ㈞(오후) ㈠(一) ㈡(二) ㈢(三) ㈣(四) ㈤(五) ㈥(六) ㈦(七) ㈧(八) ㈨(九) ㈩(十) ㈪(月)",
  "㈫(火) ㈬(水) ㈭(木) ㈮(金) ㈯(土) ㈰(日) ㈱(株) ㈲(有) ㈳(社) ㈴(名) ㈵(特) ㈶(財) ㈷(祝) ㈸(労) ㈹(代) ㈺(呼) ㈻(学) ㈼(監)",
  "㈽(企) ㈾(資) ㈿(協) ㉀(祭) ㉁(休) ㉂(自) ㉃(至) ㉐pte ㉑21 ㉒22 ㉓23 ㉔24 ㉕25 ㉖26 ㉗27 ㉘28 ㉙29 ㉚30 ㉛31 ㉜32",
  "㉝33 ㉞34 ㉟35 ㊱36 ㊲37 ㊳38 ㊴39 ㊵40 ㊶41 ㊷42 ㊸43 ㊹44 ㊺45 ㊻46 ㊼47 ㊽48 ㊾49 ㊿50 ㋀1月 ㋁2月 ㋂3月 ㋃4月",
  "㋄5月 ㋅6月 ㋆7月 ㋇8月 ㋈9月 ㋉10月 ㋊11月 ㋋12月 ㋌hg ㋍erg ㋎ev ㋏ltd ㍘0点 ㍙1点 ㍚2点 ㍛3点 ㍜4点 ㍝5点 ㍞6点 ㍟7点 ㍠8点",
  "㍡9点 ㍢10点 ㍣11点 ㍤12点 ㍥13点 ㍦14点 ㍧15点 ㍨16点 ㍩17点 ㍪18点 ㍫19点 ㍬20点 ㍭21点 ㍮22点 ㍯23点 ㍰24点 ㍱hpa ㍲da",
  "㍳au ㍴bar ㍵ov ㍶pc ㍷dm ㍸dm2 ㍹dm3 ㍺iu ㎀pa ㎁na ㎂μa ㎃ma ㎄ka ㎅kb ㎆mb ㎇gb ㎈cal ㎉kcal ㎊pf ㎋nf ㎌μf",
  "㎍μg ㎎mg ㎏kg ㎐hz ㎑khz ㎒mhz ㎓ghz ㎔thz ㎕μl ㎖ml ㎗dl ㎘kl ㎙fm ㎚nm ㎛μm ㎜mm ㎝cm ㎞km ㎟mm2 ㎠cm2 ㎡m2",
  "㎢km2 ㎣mm3 ㎤cm3 ㎥m3 ㎦km3 ㎧m∕s ㎨m∕s2 ㎩pa ㎪kpa ㎫mpa ㎬gpa ㎭rad ㎮rad∕s ㎯rad∕s2 ㎰ps ㎱ns ㎲μs ㎳ms",
  "㎴pv ㎵nv ㎶μv ㎷mv ㎸kv ㎹mv ㎺pw ㎻nw ㎼μw ㎽mw ㎾kw ㎿mw ㏀kω ㏁mω ㏃bq ㏄cc ㏅cd ㏆c∕kg ㏈db ㏉gy ㏊ha ㏋hp",
  "㏌in ㏍kk ㏎km ㏏kt ㏐lm ㏑ln ㏒log ㏓lx ㏔mb ㏕mil ㏖mol ㏗ph ㏙ppm ㏚pr ㏛sr ㏜sv ㏝wb ㏞v∕m ㏟a∕m ㏠1日 ㏡2日",
  "㏢3日 ㏣4日 ㏤5日 ㏥6日 ㏦7日 ㏧8日 ㏨9日 ㏩10日 ㏪11日 ㏫12日 ㏬13日 ㏭14日 ㏮15日 ㏯16日 ㏰17日 ㏱18日 ㏲19日 ㏳20日 ㏴21日",
  "㏵22日 ㏶23日 ㏷24日 ㏸25日 ㏹26日 ㏺27日 ㏻28日 ㏼29日 ㏽30日 ㏾31日 ㏿gal ﬀff ﬁfi ﬂfl ﬃffi ﬄffl ﬅst ﬆst 🄁0,",
  "🄂1, 🄃2, 🄄3, 🄅4, 🄆5, 🄇6, 🄈7, 🄉8, 🄊9, 🄐(a) 🄑(b) 🄒(c) 🄓(d) 🄔(e) 🄕(f) 🄖(g) 🄗(h) 🄘(i) 🄙(j) 🄚(k)",
  "🄛(l) 🄜(m) 🄝(n) 🄞(o) 🄟(p) 🄠(q) 🄡(r) 🄢(s) 🄣(t) 🄤(u) 🄥(v) 🄦(w) 🄧(x) 🄨(y) 🄩(z) 🄪〔s〕 🄭cd 🄮wz",
  "🅊hv 🅋mv 🅌sd 🅍ss 🅎ppv 🅏wc 🅪mc 🅫md 🅬mr 🆐dj"]

/-- The code points that are read as a letter with its marks, or as a mark of another kind. -/
def splitRows : List (Nat × List Nat) := [
  (832, [768]), (833, [769]), (835, [787]), (836, [776, 769]), (837, [953]), (2392, [2325, 2364]),
  (2393, [2326, 2364]), (2394, [2327, 2364]), (2395, [2332, 2364]), (2396, [2337, 2364]),
  (2397, [2338, 2364]), (2398, [2347, 2364]), (2399, [2351, 2364]), (2524, [2465, 2492]),
  (2525, [2466, 2492]), (2527, [2479, 2492]), (2611, [2610, 2620]), (2614, [2616, 2620]),
  (2649, [2582, 2620]), (2650, [2583, 2620]), (2651, [2588, 2620]), (2654, [2603, 2620]),
  (2908, [2849, 2876]), (2909, [2850, 2876]), (3635, [3661, 3634]), (3763, [3789, 3762]),
  (3955, [3953, 3954]), (3957, [3953, 3956]), (3958, [4018, 3968]), (3959, [4018, 3953, 3968]),
  (3960, [4019, 3968]), (3961, [4019, 3953, 3968]), (3969, [3953, 3968]), (3987, [3986, 4023]),
  (3997, [3996, 4023]), (4002, [4001, 4023]), (4007, [4006, 4023]), (4012, [4011, 4023]),
  (4025, [3984, 4021]), (10972, [10973, 824]), (64285, [1497, 1460]), (64287, [1522, 1463]),
  (64298, [1513, 1473]), (64299, [1513, 1474]), (64300, [1513, 1468, 1473]),
  (64301, [1513, 1468, 1474]), (64302, [1488, 1463]), (64303, [1488, 1464]), (64304, [1488, 1468]),
  (64305, [1489, 1468]), (64306, [1490, 1468]), (64307, [1491, 1468]), (64308, [1492, 1468]),
  (64309, [1493, 1468]), (64310, [1494, 1468]), (64312, [1496, 1468]), (64313, [1497, 1468]),
  (64314, [1498, 1468]), (64315, [1499, 1468]), (64316, [1500, 1468]), (64318, [1502, 1468]),
  (64320, [1504, 1468]), (64321, [1505, 1468]), (64323, [1507, 1468]), (64324, [1508, 1468]),
  (64326, [1510, 1468]), (64327, [1511, 1468]), (64328, [1512, 1468]), (64329, [1513, 1468]),
  (64330, [1514, 1468]), (64331, [1493, 1465]), (64332, [1489, 1471]), (64333, [1499, 1471]),
  (64334, [1508, 1471]), (64603, [1584, 1648]), (64604, [1585, 1648]), (64605, [1609, 1648]),
  (64656, [1609, 1648]), (64729, [1607, 1648]), (64754, [1600, 1614, 1617]),
  (64755, [1600, 1615, 1617]), (64756, [1600, 1616, 1617]), (64828, [1575, 1611]),
  (64829, [1575, 1611]), (65137, [1600, 1611]), (65143, [1600, 1614]), (65145, [1600, 1615]),
  (65147, [1600, 1616]), (65149, [1600, 1617]), (65151, [1600, 1618]), (65438, [12441]),
  (65439, [12442]), (119134, [119127, 119141]), (119135, [119128, 119141]),
  (119136, [119128, 119141, 119150]), (119137, [119128, 119141, 119151]),
  (119138, [119128, 119141, 119152]), (119139, [119128, 119141, 119153]),
  (119140, [119128, 119141, 119154]), (119227, [119225, 119141]), (119228, [119226, 119141]),
  (119229, [119225, 119141, 119150]), (119230, [119226, 119141, 119150]),
  (119231, [119225, 119141, 119151]), (119232, [119226, 119141, 119151]),
  (127552, [12308, 26412, 12309]), (127553, [12308, 19977, 12309]), (127554, [12308, 20108, 12309]),
  (127555, [12308, 23433, 12309]), (127556, [12308, 28857, 12309]), (127557, [12308, 25171, 12309]),
  (127558, [12308, 30423, 12309]), (127559, [12308, 21213, 12309]), (127560, [12308, 25943, 12309])]

/-- Runs of the other characters that are read as characters outside ASCII: first and last code
point, and the step between them. -/
def respelledRuns : List (Nat × Nat × Nat) := [
  (181, 181, 1), (192, 214, 1), (216, 222, 1), (256, 302, 2), (308, 310, 2), (313, 317, 2),
  (321, 327, 2), (330, 374, 2), (376, 377, 1), (379, 381, 2), (385, 386, 1), (388, 388, 1),
  (390, 391, 1), (393, 395, 1), (398, 401, 1), (403, 404, 1), (406, 408, 1), (412, 413, 1),
  (415, 416, 1), (418, 420, 2), (422, 423, 1), (425, 425, 1), (428, 428, 1), (430, 431, 1),
  (433, 435, 1), (437, 437, 1), (439, 440, 1), (444, 444, 1), (461, 475, 2), (478, 494, 2),
  (500, 500, 1), (502, 504, 1), (506, 562, 2), (570, 571, 1), (573, 574, 1), (577, 577, 1),
  (579, 582, 1), (584, 590, 2), (689, 694, 1), (736, 740, 1), (880, 886, 2), (895, 911, 1),
  (913, 939, 1), (975, 982, 1), (984, 1006, 2), (1008, 1010, 1), (1012, 1013, 1), (1015, 1015, 1),
  (1017, 1018, 1), (1021, 1071, 1), (1120, 1152, 2), (1162, 1214, 2), (1216, 1217, 1),
  (1219, 1229, 2), (1232, 1326, 2), (1329, 1366, 1), (1415, 1415, 1), (1653, 1656, 1),
  (3804, 3805, 1), (3852, 3852, 1), (3907, 3907, 1), (3917, 3917, 1), (3922, 3922, 1),
  (3927, 3927, 1), (3932, 3932, 1), (3945, 3945, 1), (4256, 4301, 1), (4348, 4348, 1),
  (5112, 5117, 1), (7296, 7305, 1), (7312, 7359, 1), (7469, 7469, 1), (7474, 7474, 1),
  (7485, 7500, 1), (7505, 7530, 1), (7544, 7544, 1), (7579, 7615, 1), (7680, 7828, 2),
  (7835, 7835, 1), (7838, 7934, 2), (7944, 7951, 1), (7960, 7965, 1), (7976, 7983, 1),
  (7992, 7999, 1), (8008, 8013, 1), (8025, 8031, 1), (8040, 8047, 1), (8049, 8059, 2),
  (8061, 8111, 1), (8114, 8116, 1), (8119, 8132, 1), (8135, 8140, 1), (8147, 8147, 1),
  (8152, 8155, 1), (8163, 8163, 1), (8168, 8180, 1), (8183, 8188, 1), (8209, 8209, 1),
  (8243, 8244, 1), (8246, 8247, 1), (8279, 8279, 1), (8315, 8340, 1), (8455, 8455, 1),
  (8463, 8463, 1), (8486, 8486, 1), (8491, 8491, 1), (8498, 8504, 1), (8508, 8512, 1),
  (8579, 8579, 1), (8748, 8749, 1), (8751, 8752, 1), (9001, 9002, 1), (10764, 10764, 1),
  (11264, 11311, 1), (11360, 11360, 1), (11362, 11364, 1), (11367, 11371, 2), (11373, 11376, 1),
  (11378, 11378, 1), (11381, 11381, 1), (11390, 11392, 1), (11394, 11490, 2), (11499, 11501, 2),
  (11506, 11506, 1), (11631, 11631, 1), (11935, 11935, 1), (12019, 12245, 1), (12342, 12342, 1),
  (12344, 12346, 1), (12447, 12447, 1), (12543, 12543, 1), (12593, 12686, 1), (12690, 12703, 1),
  (12868, 12871, 1), (12896, 12926, 1), (12928, 13183, 1), (42560, 42604, 2), (42624, 42650, 2),
  (42652, 42653, 1), (42786, 42798, 2), (42802, 42864, 2), (42873, 42875, 2), (42877, 42878, 1),
  (42880, 42886, 2), (42891, 42893, 2), (42896, 42898, 2), (42902, 42920, 2), (42922, 42926, 1),
  (42928, 42932, 1), (42934, 42946, 2), (42948, 42951, 1), (42953, 42953, 1), (42955, 42956, 1),
  (42958, 42970, 2), (42972, 42997, 1), (43000, 43001, 1), (43868, 43871, 1), (43881, 43881, 1),
  (43888, 43967, 1), (63744, 64013, 1), (64016, 64018, 2), (64021, 64030, 1), (64032, 64034, 2),
  (64037, 64038, 1), (64042, 64279, 1), (64288, 64433, 1), (64467, 64827, 1), (64848, 64911, 1),
  (64914, 64967, 1), (65008, 65020, 1), (65041, 65048, 1), (65073, 65092, 1), (65105, 65118, 1),
  (65152, 65518, 1), (66560, 66599, 1), (66736, 66771, 1), (66928, 66965, 1), (67457, 67514, 1),
  (68736, 68786, 1), (68944, 68965, 1), (71840, 71871, 1), (93760, 93791, 1), (93856, 93880, 1),
  (120484, 120779, 1), (122928, 122989, 1), (125184, 125217, 1), (126464, 126651, 1),
  (127488, 127569, 1), (194560, 195101, 1)]

/-- How a character is read in a host name. -/
inductive Standing where
  /-- As itself. -/
  | kept
  /-- As characters outside ASCII that are written, join and combine as it does. -/
  | respelled
  /-- As the given characters. -/
  | spelled (cs : List Char)
  /-- As nothing. -/
  | dropped
  /-- No host name holds it. -/
  | refused
  deriving BEq

/-- The visible ASCII characters that no host name holds. A comparison sign may still become part
of a character of its own. -/
def refusedAscii : List Char := "#/:?@[]^|%\"".toList ++ ['\\', '\x60', '\x7b', '\x7d']

/-- The words that spell a character out, each with the character in front. -/
def spelledWords : List (List Char) := spelledLines.flatMap (fun l => Text.splitOn ' ' l.toList)

/-- The plain characters that a character outside ASCII is read as. -/
def plainSpelling? (c : Char) : Option (List Char) :=
  let n := c.toNat
  match asciiRuns.find? (fun r => r.1 ≤ n && n ≤ r.2.1) with
  | some (first, _, image) => some [Char.ofNat (n - first + image)]
  | none =>
    match spelledWords.find? (fun w => w.head? = some c) with
    | some word => some word.tail
    | none => (splitRows.find? (·.1 = n)).map (fun r => r.2.map Char.ofNat)

/-- How a character outside ASCII is read. -/
def wideStanding (c : Char) : Standing :=
  let n := c.toNat
  if Text.inRuns refusedRuns n then .refused
  else if Text.inRuns droppedRuns n then .dropped
  else match plainSpelling? c with
    | some cs => .spelled cs
    | none =>
      if respelledRuns.any (fun r => r.1 ≤ n && n ≤ r.2.1 && (n - r.1) % r.2.2 == 0) then .respelled
      else .kept

/-- How a character is read. ASCII capitals are read as small letters. -/
def standing (c : Char) : Standing :=
  if 128 ≤ c.toNat then wideStanding c
  else if c.toNat ≤ 32 || c.toNat = 127 || refusedAscii.contains c then .refused
  else if 'A' ≤ c && c ≤ 'Z' then .spelled [Text.lowerAscii c]
  else .kept

/-- The characters that a text is read as, unless it holds one that is refused. -/
def mapped? : List Char → Option (List Char)
  | [] => some []
  | c :: cs =>
    match standing c with
    | .kept | .respelled => (mapped? cs).map (c :: ·)
    | .spelled image => (mapped? cs).map (image ++ ·)
    | .dropped => mapped? cs
    | .refused => none

end OpticalTestbed.HostName
