import OpticalTestbed.HostName.Composition
import OpticalTestbed.HostName.Direction
/-!
Letters that join their neighbours, and where the two invisible signs that ask for a joined or an
unjoined form may stand.
-/
namespace OpticalTestbed.HostName

/-- Runs of marks that take room. -/
def spacingMarkRuns : List (Nat × Nat) := [
  (2307, 2307), (2363, 2363), (2366, 2368), (2377, 2380), (2382, 2383), (2434, 2435), (2494, 2496),
  (2503, 2508), (2519, 2519), (2563, 2563), (2622, 2624), (2691, 2691), (2750, 2752), (2761, 2764),
  (2818, 2819), (2878, 2878), (2880, 2880), (2887, 2892), (2903, 2903), (3006, 3007), (3009, 3020),
  (3031, 3031), (3073, 3075), (3137, 3140), (3202, 3203), (3262, 3275), (3285, 3286), (3315, 3315),
  (3330, 3331), (3390, 3392), (3398, 3404), (3415, 3415), (3458, 3459), (3535, 3537), (3544, 3551),
  (3570, 3571), (3902, 3903), (3967, 3967), (4139, 4140), (4145, 4145), (4152, 4152), (4155, 4156),
  (4182, 4183), (4194, 4196), (4199, 4205), (4227, 4228), (4231, 4236), (4239, 4239), (4250, 4252),
  (5909, 5909), (5940, 5940), (6070, 6070), (6078, 6085), (6087, 6088), (6435, 6438), (6441, 6449),
  (6451, 6456), (6681, 6682), (6741, 6741), (6743, 6743), (6753, 6753), (6755, 6756), (6765, 6770),
  (6916, 6916), (6965, 6965), (6971, 6971), (6973, 6977), (6979, 6980), (7042, 7042), (7073, 7073),
  (7078, 7079), (7082, 7082), (7143, 7143), (7146, 7148), (7150, 7150), (7154, 7155), (7204, 7211),
  (7220, 7221), (7393, 7393), (7415, 7415), (12334, 12335), (43043, 43044), (43047, 43047),
  (43136, 43137), (43188, 43203), (43346, 43347), (43395, 43395), (43444, 43445), (43450, 43451),
  (43454, 43456), (43567, 43568), (43571, 43572), (43597, 43597), (43643, 43643), (43645, 43645),
  (43755, 43755), (43758, 43759), (43765, 43765), (44003, 44004), (44006, 44007), (44009, 44010),
  (44012, 44012), (69632, 69632), (69634, 69634), (69762, 69762), (69808, 69810), (69815, 69816),
  (69932, 69932), (69957, 69958), (70018, 70018), (70067, 70069), (70079, 70080), (70094, 70094),
  (70188, 70190), (70194, 70195), (70197, 70197), (70368, 70370), (70402, 70403), (70462, 70463),
  (70465, 70477), (70487, 70487), (70498, 70499), (70584, 70586), (70594, 70605), (70607, 70607),
  (70709, 70711), (70720, 70721), (70725, 70725), (70832, 70834), (70841, 70841), (70843, 70846),
  (70849, 70849), (71087, 71089), (71096, 71099), (71102, 71102), (71216, 71218), (71227, 71228),
  (71230, 71230), (71340, 71340), (71342, 71343), (71350, 71350), (71454, 71454), (71456, 71457),
  (71462, 71462), (71724, 71726), (71736, 71736), (71984, 71992), (71997, 71997), (72000, 72000),
  (72002, 72002), (72145, 72147), (72156, 72159), (72164, 72164), (72199, 72200), (72249, 72249),
  (72279, 72280), (72343, 72343), (72545, 72545), (72549, 72549), (72551, 72551), (72751, 72751),
  (72766, 72767), (72873, 72873), (72881, 72881), (72884, 72884), (73098, 73102), (73107, 73108),
  (73110, 73110), (73461, 73462), (73475, 73475), (73524, 73525), (73534, 73535), (73537, 73537),
  (90410, 90412), (94033, 94087), (94192, 94193), (119141, 119142), (119149, 119154)]

/-- Runs of letters that join on both sides. -/
def dualJoiningRuns : List (Nat × Nat) := [
  (1568, 1568), (1574, 1574), (1576, 1576), (1578, 1582), (1587, 1599), (1601, 1607), (1609, 1610),
  (1646, 1647), (1657, 1671), (1690, 1727), (1729, 1730), (1740, 1740), (1742, 1742), (1744, 1745),
  (1786, 1788), (1791, 1791), (1810, 1812), (1818, 1821), (1823, 1831), (1833, 1833), (1835, 1835),
  (1837, 1838), (1870, 1880), (1884, 1898), (1901, 1904), (1906, 1906), (1909, 1911), (1914, 1919),
  (1994, 2026), (2113, 2117), (2120, 2120), (2122, 2131), (2133, 2133), (2144, 2144), (2146, 2149),
  (2152, 2152), (2182, 2182), (2185, 2189), (2191, 2191), (2208, 2217), (2223, 2224), (2227, 2232),
  (2234, 2248), (6151, 6151), (6176, 6264), (6279, 6312), (6314, 6314), (43072, 43121),
  (64338, 64385), (64398, 64419), (64422, 64429), (64467, 64470), (64484, 64489), (64502, 64566),
  (64568, 64602), (64614, 64617), (64620, 64623), (64626, 64629), (64632, 64639), (64641, 64647),
  (64649, 64649), (64652, 64655), (64659, 64780), (64785, 64808), (64813, 64827), (64848, 64911),
  (64914, 64967), (65010, 65010), (65013, 65020), (65161, 65164), (65167, 65170), (65173, 65192),
  (65201, 65260), (65263, 65268), (68288, 68292), (68307, 68310), (68312, 68316), (68318, 68320),
  (68331, 68334), (68480, 68480), (68482, 68482), (68486, 68488), (68490, 68491), (68493, 68493),
  (68496, 68496), (68525, 68526), (68865, 68897), (68899, 68899), (69315, 69316), (69318, 69319),
  (69424, 69426), (69428, 69444), (69457, 69459), (69488, 69491), (69494, 69505), (69552, 69552),
  (69554, 69555), (69560, 69560), (69563, 69564), (69566, 69567), (69569, 69569), (69572, 69572),
  (69578, 69578), (125184, 125251), (126465, 126466), (126471, 126482), (126484, 126487),
  (126489, 126590), (126593, 126594), (126596, 126596), (126599, 126610), (126612, 126615),
  (126617, 126626), (126631, 126642), (126644, 126647), (126649, 126651)]

/-- Runs of letters that join the letter before them only. -/
def rightJoiningRuns : List (Nat × Nat) := [
  (1570, 1573), (1575, 1575), (1577, 1577), (1583, 1586), (1608, 1608), (1649, 1651), (1653, 1656),
  (1672, 1689), (1728, 1728), (1731, 1739), (1741, 1741), (1743, 1743), (1746, 1747), (1749, 1749),
  (1774, 1775), (1808, 1808), (1813, 1817), (1822, 1822), (1832, 1832), (1834, 1834), (1836, 1836),
  (1839, 1839), (1869, 1869), (1881, 1883), (1899, 1900), (1905, 1905), (1907, 1908), (1912, 1913),
  (2112, 2112), (2118, 2119), (2121, 2121), (2132, 2132), (2134, 2136), (2151, 2151), (2153, 2178),
  (2190, 2190), (2218, 2220), (2222, 2222), (2225, 2226), (2233, 2233), (64336, 64337),
  (64386, 64397), (64420, 64421), (64430, 64433), (64471, 64483), (64490, 64501), (64567, 64567),
  (64612, 64613), (64618, 64619), (64624, 64625), (64630, 64631), (64640, 64640), (64648, 64648),
  (64650, 64651), (64657, 64658), (64781, 64784), (64809, 64812), (65008, 65009), (65011, 65012),
  (65153, 65160), (65165, 65166), (65171, 65172), (65193, 65200), (65261, 65262), (65269, 65276),
  (68293, 68293), (68295, 68295), (68297, 68298), (68302, 68306), (68317, 68317), (68321, 68321),
  (68324, 68324), (68335, 68335), (68481, 68481), (68483, 68485), (68489, 68489), (68492, 68492),
  (68494, 68495), (68497, 68497), (68521, 68524), (68898, 68898), (69314, 69314), (69427, 69427),
  (69460, 69460), (69492, 69493), (69556, 69558), (69561, 69562), (69565, 69565), (69570, 69571),
  (69577, 69577), (126464, 126464), (126467, 126470), (126483, 126483), (126488, 126488),
  (126592, 126592), (126595, 126595), (126597, 126598), (126611, 126611), (126616, 126616),
  (126627, 126630), (126643, 126643), (126648, 126648)]

/-- Runs of letters that join the letter after them only. -/
def leftJoiningRuns : List (Nat × Nat) := [
  (43122, 43122), (68301, 68301), (68311, 68311), (68864, 68864), (69579, 69579)]

/-- Characters that joining passes over although they take room or have a direction. -/
def passedOver : List Nat := [3263, 3270, 72199, 72200, 72767, 125259]

/-- Whether a character is a mark that must follow another character. -/
def isMark (c : Char) : Bool :=
  direction c = .nonspacing || Text.inRuns spacingMarkRuns c.toNat

/-- Whether joining passes over a character. -/
def isPassedOver (c : Char) : Bool := direction c = .nonspacing || passedOver.contains c.toNat

/-- Whether a letter joins the letter after it. -/
def joinsNext (c : Char) : Bool :=
  Text.inRuns dualJoiningRuns c.toNat || Text.inRuns leftJoiningRuns c.toNat

/-- Whether a letter joins the letter before it. -/
def joinsPrevious (c : Char) : Bool :=
  Text.inRuns dualJoiningRuns c.toNat || Text.inRuns rightJoiningRuns c.toNat

/-- Whether the first character that is not passed over has a property. -/
def leadsTo (p : Char → Bool) (cs : List Char) : Bool :=
  match cs.dropWhile isPassedOver with
  | c :: _ => p c
  | [] => false

/-- The sign that keeps letters apart, and the sign that joins them. -/
def nonJoiner : Char := '\u200c'
def joiner : Char := '\u200d'

/-- Whether such signs stand only where they make a difference: after a virama, or between letters
that would join. The characters before the rest are given in reverse. -/
def placesJoiners (before : List Char) : List Char → Bool
  | [] => true
  | c :: cs =>
    (if c = joiner then before.head?.any isVirama
      else if c = nonJoiner then
        before.head?.any isVirama || (leadsTo joinsNext before && leadsTo joinsPrevious cs)
      else true) && placesJoiners (c :: before) cs

end OpticalTestbed.HostName
