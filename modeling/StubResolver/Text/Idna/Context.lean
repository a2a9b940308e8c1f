/-
This file holds the rules about characters in context that a label of an international name has to
obey: it does not begin with a mark, the invisible joiners stand only where they change how letters
are written, and a label in a name with letters that run from right to left keeps one direction.
-/

import StubResolver.Text.Table
import StubResolver.Text.Idna.Composition

namespace StubResolver.Idna

/-! ### Tables -/

/-- Ranges of marks. -/
def markRows : List (List Nat) := readTable "
300.36f 483.489 591.5bd 5bf.5bf 5c1.5c2 5c4.5c5 5c7.5c7 610.61a 64b.65f 670.670 6d6.6dc
6df.6e4 6e7.6e8 6ea.6ed 711.711 730.74a 7a6.7b0 7eb.7f3 7fd.7fd 816.819 81b.823 825.827
829.82d 859.85b 897.89f 8ca.903 93a.93c 93e.94f 951.957 962.963 981.983 9bc.9bc 9be.9cd
9d7.9d7 9e2.9e3 9fe.a03 a3c.a51 a70.a71 a75.a75 a81.a83 abc.abc abe.acd ae2.ae3 afa.b03
b3c.b3c b3e.b57 b62.b63 b82.b82 bbe.bcd bd7.bd7 c00.c04 c3c.c3c c3e.c56 c62.c63 c81.c83
cbc.cbc cbe.cd6 ce2.ce3 cf3.d03 d3b.d3c d3e.d4d d57.d57 d62.d63 d81.d83 dca.ddf df2.df3
e31.e31 e34.e3a e47.e4e eb1.eb1 eb4.ebc ec8.ece f18.f19 f35.f35 f37.f37 f39.f39 f3e.f3f
f71.f84 f86.f87 f8d.fbc fc6.fc6 102b.103e 1056.1059 105e.1060 1062.1064 1067.106d 1071.1074
1082.108d 108f.108f 109a.109d 135d.135f 1712.1715 1732.1734 1752.1753 1772.1773 17b6.17d3
17dd.17dd 1885.1886 18a9.18a9 1920.193b 1a17.1a1b 1a55.1a7f 1ab0.1b04 1b34.1b44 1b6b.1b73
1b80.1b82 1ba1.1bad 1be6.1bf3 1c24.1c37 1cd0.1cd2 1cd4.1ce8 1ced.1ced 1cf4.1cf4 1cf7.1cf9
1dc0.1dff 20d0.20f0 2cef.2cf1 2d7f.2d7f 2de0.2dff 302a.302f 3099.309a a66f.a672 a674.a67d
a69e.a69f a6f0.a6f1 a802.a802 a806.a806 a80b.a80b a823.a827 a82c.a82c a880.a881 a8b4.a8c5
a8e0.a8f1 a8ff.a8ff a926.a92d a947.a953 a980.a983 a9b3.a9c0 a9e5.a9e5 aa29.aa36 aa43.aa43
aa4c.aa4d aa7b.aa7d aab0.aab0 aab2.aab4 aab7.aab8 aabe.aabf aac1.aac1 aaeb.aaef aaf5.aaf6
abe3.abea abec.abed fb1e.fb1e fe20.fe2f 101fd.101fd 102e0.102e0 10376.1037a 10a01.10a0f
10a38.10a3f 10ae5.10ae6 10d24.10d27 10d69.10d6d 10eab.10eac 10efa.10eff 10f46.10f50
10f82.10f85 11000.11002 11038.11046 11070.11070 11073.11074 1107f.11082 110b0.110ba
110c2.110c2 11100.11102 11127.11134 11145.11146 11173.11173 11180.11182 111b3.111c0
111c9.111cc 111ce.111cf 1122c.11237 1123e.1123e 11241.11241 112df.112ea 11300.11303
1133b.1133c 1133e.1134d 11357.11357 11362.11374 113b8.113d0 113d2.113d2 113e1.113e2
11435.11446 1145e.1145e 114b0.114c3 115af.115c0 115dc.115dd 11630.11640 116ab.116b7
1171d.1172b 1182c.1183a 11930.1193e 11940.11940 11942.11943 119d1.119e0 119e4.119e4
11a01.11a0a 11a33.11a39 11a3b.11a3e 11a47.11a47 11a51.11a5b 11a8a.11a99 11b60.11b67
11c2f.11c3f 11c92.11cb6 11d31.11d45 11d47.11d47 11d8a.11d97 11ef3.11ef6 11f00.11f01
11f03.11f03 11f34.11f42 11f5a.11f5a 13440.13440 13447.13455 1611e.1612f 16af0.16af4
16b30.16b36 16f4f.16f4f 16f51.16f92 16fe4.16ff1 1bc9d.1bc9e 1cf00.1cf46 1d165.1d169
1d16d.1d182 1d185.1d18b 1d1aa.1d1ad 1d242.1d244 1da00.1da36 1da3b.1da6c 1da75.1da75
1da84.1da84 1da9b.1daaf 1e000.1e08f 1e130.1e136 1e2ae.1e2ae 1e2ec.1e2ef 1e4ec.1e4ef
1e5ee.1e5ef 1e6e3.1e6e3 1e6e6.1e6e6 1e6ee.1e6ef 1e6f5.1e6f5 1e8d0.1e8d6 1e944.1e94a"

/-- Ranges of letters with the way they join to their neighbours: 1 for those that joining looks
through, 2 for those that join to what follows, 3 for those that join to what precedes, and 4 for
those that join to both. -/
def joiningRows : List (List Nat) := readTable "
300.36f.1 483.489.1 591.5bd.1 5bf.5bf.1 5c1.5c2.1 5c4.5c5.1 5c7.5c7.1 610.61a.1 620.620.4
622.625.3 626.626.4 627.627.3 628.628.4 629.629.3 62a.62e.4 62f.632.3 633.63f.4 641.647.4
648.648.3 649.64a.4 64b.65f.1 66e.66f.4 670.670.1 671.673.3 679.687.4 688.699.3 69a.6bf.4
6c0.6c0.3 6c1.6c2.4 6c3.6cb.3 6cc.6cc.4 6cd.6cd.3 6ce.6ce.4 6cf.6cf.3 6d0.6d1.4 6d2.6d3.3
6d5.6d5.3 6d6.6dc.1 6df.6e4.1 6e7.6e8.1 6ea.6ed.1 6ee.6ef.3 6fa.6fc.4 6ff.6ff.4 710.710.3
711.711.1 712.714.4 715.719.3 71a.71d.4 71e.71e.3 71f.727.4 728.728.3 729.729.4 72a.72a.3
72b.72b.4 72c.72c.3 72d.72e.4 72f.72f.3 730.74a.1 74d.74d.3 74e.758.4 759.75b.3 75c.76a.4
76b.76c.3 76d.770.4 771.771.3 772.772.4 773.774.3 775.777.4 778.779.3 77a.77f.4 7a6.7b0.1
7ca.7ea.4 7eb.7f3.1 7fd.7fd.1 816.819.1 81b.823.1 825.827.1 829.82d.1 840.840.3 841.845.4
846.847.3 848.848.4 849.849.3 84a.853.4 854.854.3 855.855.4 856.858.3 859.85b.1 860.860.4
862.865.4 867.867.3 868.868.4 869.882.3 886.886.4 889.88d.4 88e.88e.3 88f.88f.4 897.89f.1
8a0.8a9.4 8aa.8ac.3 8ae.8ae.3 8af.8b0.4 8b1.8b2.3 8b3.8b8.4 8b9.8b9.3 8ba.8c8.4 8ca.902.1
93a.93a.1 93c.93c.1 941.948.1 94d.94d.1 951.957.1 962.963.1 981.981.1 9bc.9bc.1 9c1.9c4.1
9cd.9cd.1 9e2.9e3.1 9fe.a02.1 a3c.a3c.1 a41.a51.1 a70.a71.1 a75.a75.1 a81.a82.1 abc.abc.1
ac1.ac8.1 acd.acd.1 ae2.ae3.1 afa.b01.1 b3c.b3c.1 b3f.b3f.1 b41.b44.1 b4d.b56.1 b62.b63.1
b82.b82.1 bc0.bc0.1 bcd.bcd.1 c00.c00.1 c04.c04.1 c3c.c3c.1 c3e.c40.1 c46.c56.1 c62.c63.1
c81.c81.1 cbc.cbc.1 cbf.cbf.1 cc6.cc6.1 ccc.ccd.1 ce2.ce3.1 d00.d01.1 d3b.d3c.1 d41.d44.1
d4d.d4d.1 d62.d63.1 d81.d81.1 dca.dca.1 dd2.dd6.1 e31.e31.1 e34.e3a.1 e47.e4e.1 eb1.eb1.1
eb4.ebc.1 ec8.ece.1 f18.f19.1 f35.f35.1 f37.f37.1 f39.f39.1 f71.f7e.1 f80.f84.1 f86.f87.1
f8d.fbc.1 fc6.fc6.1 102d.1030.1 1032.1037.1 1039.103a.1 103d.103e.1 1058.1059.1 105e.1060.1
1071.1074.1 1082.1082.1 1085.1086.1 108d.108d.1 109d.109d.1 135d.135f.1 1712.1714.1
1732.1733.1 1752.1753.1 1772.1773.1 17b7.17bd.1 17c6.17c6.1 17c9.17d3.1 17dd.17dd.1
1807.1807.4 1820.1878.4 1885.1886.1 1887.18a8.4 18a9.18a9.1 18aa.18aa.4 1920.1922.1
1927.1928.1 1932.1932.1 1939.193b.1 1a17.1a18.1 1a1b.1a1b.1 1a56.1a56.1 1a58.1a60.1
1a62.1a62.1 1a65.1a6c.1 1a73.1a7f.1 1ab0.1b03.1 1b34.1b34.1 1b36.1b3a.1 1b3c.1b3c.1
1b42.1b42.1 1b6b.1b73.1 1b80.1b81.1 1ba2.1ba5.1 1ba8.1ba9.1 1bab.1bad.1 1be6.1be6.1
1be8.1be9.1 1bed.1bed.1 1bef.1bf1.1 1c2c.1c33.1 1c36.1c37.1 1cd0.1cd2.1 1cd4.1ce0.1
1ce2.1ce8.1 1ced.1ced.1 1cf4.1cf4.1 1cf8.1cf9.1 1dc0.1dff.1 20d0.20f0.1 2cef.2cf1.1
2d7f.2d7f.1 2de0.2dff.1 302a.302d.1 3099.309a.1 a66f.a672.1 a674.a67d.1 a69e.a69f.1
a6f0.a6f1.1 a802.a802.1 a806.a806.1 a80b.a80b.1 a825.a826.1 a82c.a82c.1 a840.a871.4
a872.a872.2 a8c4.a8c5.1 a8e0.a8f1.1 a8ff.a8ff.1 a926.a92d.1 a947.a951.1 a980.a982.1
a9b3.a9b3.1 a9b6.a9b9.1 a9bc.a9bd.1 a9e5.a9e5.1 aa29.aa2e.1 aa31.aa32.1 aa35.aa36.1
aa43.aa43.1 aa4c.aa4c.1 aa7c.aa7c.1 aab0.aab0.1 aab2.aab4.1 aab7.aab8.1 aabe.aabf.1
aac1.aac1.1 aaec.aaed.1 aaf6.aaf6.1 abe5.abe5.1 abe8.abe8.1 abed.abed.1 fb1e.fb1e.1
fe20.fe2f.1 101fd.101fd.1 102e0.102e0.1 10376.1037a.1 10a01.10a0f.1 10a38.10a3f.1
10ac0.10ac4.4 10ac5.10ac5.3 10ac7.10ac7.3 10ac9.10aca.3 10acd.10acd.2 10ace.10ad2.3
10ad3.10ad6.4 10ad7.10ad7.2 10ad8.10adc.4 10add.10add.3 10ade.10ae0.4 10ae1.10ae1.3
10ae4.10ae4.3 10ae5.10ae6.1 10aeb.10aee.4 10aef.10aef.3 10b80.10b80.4 10b81.10b81.3
10b82.10b82.4 10b83.10b85.3 10b86.10b88.4 10b89.10b89.3 10b8a.10b8b.4 10b8c.10b8c.3
10b8d.10b8d.4 10b8e.10b8f.3 10b90.10b90.4 10b91.10b91.3 10ba9.10bac.3 10bad.10bae.4
10d00.10d00.2 10d01.10d21.4 10d22.10d22.3 10d23.10d23.4 10d24.10d27.1 10d69.10d6d.1
10eab.10eac.1 10ec2.10ec2.3 10ec3.10ec4.4 10ec6.10ec7.4 10efa.10eff.1 10f30.10f32.4
10f33.10f33.3 10f34.10f44.4 10f46.10f50.1 10f51.10f53.4 10f54.10f54.3 10f70.10f73.4
10f74.10f75.3 10f76.10f81.4 10f82.10f85.1 10fb0.10fb0.4 10fb2.10fb3.4 10fb4.10fb6.3
10fb8.10fb8.4 10fb9.10fba.3 10fbb.10fbc.4 10fbd.10fbd.3 10fbe.10fbf.4 10fc1.10fc1.4
10fc2.10fc3.3 10fc4.10fc4.4 10fc9.10fc9.3 10fca.10fca.4 10fcb.10fcb.2 11001.11001.1
11038.11046.1 11070.11070.1 11073.11074.1 1107f.11081.1 110b3.110b6.1 110b9.110ba.1
110c2.110c2.1 11100.11102.1 11127.1112b.1 1112d.11134.1 11173.11173.1 11180.11181.1
111b6.111be.1 111c9.111cc.1 111cf.111cf.1 1122f.11231.1 11234.11234.1 11236.11237.1
1123e.1123e.1 11241.11241.1 112df.112df.1 112e3.112ea.1 11300.11301.1 1133b.1133c.1
11340.11340.1 11366.11374.1 113bb.113c0.1 113ce.113ce.1 113d0.113d0.1 113d2.113d2.1
113e1.113e2.1 11438.1143f.1 11442.11444.1 11446.11446.1 1145e.1145e.1 114b3.114b8.1
114ba.114ba.1 114bf.114c0.1 114c2.114c3.1 115b2.115b5.1 115bc.115bd.1 115bf.115c0.1
115dc.115dd.1 11633.1163a.1 1163d.1163d.1 1163f.11640.1 116ab.116ab.1 116ad.116ad.1
116b0.116b5.1 116b7.116b7.1 1171d.1171d.1 1171f.1171f.1 11722.11725.1 11727.1172b.1
1182f.11837.1 11839.1183a.1 1193b.1193c.1 1193e.1193e.1 11943.11943.1 119d4.119db.1
119e0.119e0.1 11a01.11a0a.1 11a33.11a38.1 11a3b.11a3e.1 11a47.11a47.1 11a51.11a56.1
11a59.11a5b.1 11a8a.11a96.1 11a98.11a99.1 11b60.11b60.1 11b62.11b64.1 11b66.11b66.1
11c30.11c3d.1 11c3f.11c3f.1 11c92.11ca7.1 11caa.11cb0.1 11cb2.11cb3.1 11cb5.11cb6.1
11d31.11d45.1 11d47.11d47.1 11d90.11d91.1 11d95.11d95.1 11d97.11d97.1 11ef3.11ef4.1
11f00.11f01.1 11f36.11f3a.1 11f40.11f40.1 11f42.11f42.1 11f5a.11f5a.1 13440.13440.1
13447.13455.1 1611e.16129.1 1612d.1612f.1 16af0.16af4.1 16b30.16b36.1 16f4f.16f4f.1
16f8f.16f92.1 16fe4.16fe4.1 1bc9d.1bc9e.1 1cf00.1cf46.1 1d167.1d169.1 1d17b.1d182.1
1d185.1d18b.1 1d1aa.1d1ad.1 1d242.1d244.1 1da00.1da36.1 1da3b.1da6c.1 1da75.1da75.1
1da84.1da84.1 1da9b.1daaf.1 1e000.1e08f.1 1e130.1e136.1 1e2ae.1e2ae.1 1e2ec.1e2ef.1
1e4ec.1e4ef.1 1e5ee.1e5ef.1 1e6e3.1e6e3.1 1e6e6.1e6e6.1 1e6ee.1e6ef.1 1e6f5.1e6f5.1
1e8d0.1e8d6.1 1e922.1e943.4 1e944.1e94b.1"

/-- Ranges of characters with their direction: 1 for letters that run to the left, 2 for Arabic
digits, 3 for European digits, 4 for signs without a direction of their own, 5 for marks that take
the direction of their letter, and 6 for what no label in a name of both directions may contain.
All other letters run to the right. -/
def directionRows : List (List Nat) := readTable "
0.8.4 9.d.6 e.1b.4 1c.20.6 21.2f.4 30.39.3 3a.60.4 7b.d7.4 f7.f7.4 2b9.2ba.4 2c2.2cf.4
2d2.2ed.4 2ef.2ff.4 300.36f.5 375.375.4 3f6.3f6.4 483.489.5 58a.58f.4 591.5bd.5 5be.5be.1
5bf.5bf.5 5c0.5c0.1 5c1.5c2.5 5c3.5c3.1 5c4.5c5.5 5c6.5c6.1 5c7.5c7.5 5d0.5f4.1 606.607.4
608.608.1 609.60a.4 60b.60b.1 60c.60c.4 60d.60d.1 60e.60f.4 610.61a.5 61b.64a.1 64b.65f.5
660.669.2 66a.66a.4 66b.66c.2 66d.66f.1 670.670.5 671.6d5.1 6d6.6dc.5 6de.6de.4 6df.6e4.5
6e5.6e6.1 6e7.6e8.5 6e9.6e9.4 6ea.6ed.5 6ee.6ef.1 6f0.6f9.3 6fa.710.1 711.711.5 712.72f.1
730.74a.5 74d.7a5.1 7a6.7b0.5 7b1.7ea.1 7eb.7f3.5 7f4.7f5.1 7f6.7f9.4 7fa.7fa.1 7fd.7fd.5
7fe.815.1 816.819.5 81a.81a.1 81b.823.5 824.824.1 825.827.5 828.828.1 829.82d.5 830.858.1
859.85b.5 85e.88e.1 898.89f.5 8a0.8c9.1 8ca.902.5 93a.93a.5 93c.93c.5 941.948.5 94d.94d.5
951.957.5 962.963.5 981.981.5 9bc.9bc.5 9c1.9c4.5 9cd.9cd.5 9e2.9e3.5 9f2.9f3.4 9fb.9fb.4
9fe.a02.5 a3c.a3c.5 a41.a51.5 a70.a71.5 a75.a75.5 a81.a82.5 abc.abc.5 ac1.ac8.5 acd.acd.5
ae2.ae3.5 af1.af1.4 afa.b01.5 b3c.b3c.5 b3f.b3f.5 b41.b44.5 b4d.b56.5 b62.b63.5 b82.b82.5
bc0.bc0.5 bcd.bcd.5 bf3.bfa.4 c00.c00.5 c04.c04.5 c3c.c3c.5 c3e.c40.5 c46.c56.5 c62.c63.5
c78.c7e.4 c81.c81.5 cbc.cbc.5 ccc.ccd.5 ce2.ce3.5 d00.d01.5 d3b.d3c.5 d41.d44.5 d4d.d4d.5
d62.d63.5 d81.d81.5 dca.dca.5 dd2.dd6.5 e31.e31.5 e34.e3a.5 e3f.e3f.4 e47.e4e.5 eb1.eb1.5
eb4.ebc.5 ec8.ecd.5 f18.f19.5 f35.f35.5 f37.f37.5 f39.f39.5 f3a.f3d.4 f71.f7e.5 f80.f84.5
f86.f87.5 f8d.fbc.5 fc6.fc6.5 102d.1030.5 1032.1037.5 1039.103a.5 103d.103e.5 1058.1059.5
105e.1060.5 1071.1074.5 1082.1082.5 1085.1086.5 108d.108d.5 109d.109d.5 135d.135f.5
1390.1399.4 1400.1400.4 169b.169c.4 1712.1714.5 1732.1733.5 1752.1753.5 1772.1773.5
17b7.17bd.5 17c6.17c6.5 17c9.17d3.5 17db.17db.4 17dd.17dd.5 17f0.180a.4 1885.1886.5
18a9.18a9.5 1920.1922.5 1927.1928.5 1932.1932.5 1939.193b.5 1940.1945.4 19de.19ff.4
1a17.1a18.5 1a1b.1a1b.5 1a56.1a56.5 1a58.1a60.5 1a62.1a62.5 1a65.1a6c.5 1a73.1a7f.5
1ab0.1ace.5 1b00.1b03.5 1b34.1b34.5 1b36.1b3a.5 1b3c.1b3c.5 1b42.1b42.5 1b6b.1b73.5
1b80.1b81.5 1ba2.1ba5.5 1ba8.1ba9.5 1bab.1bad.5 1be6.1be6.5 1be8.1be9.5 1bed.1bed.5
1bef.1bf1.5 1c2c.1c33.5 1c36.1c37.5 1cd0.1cd2.5 1cd4.1ce0.5 1ce2.1ce8.5 1ced.1ced.5
1cf4.1cf4.5 1cf8.1cf9.5 1dc0.1dff.5 200c.20c0.4 20d0.20f0.5 2104.214d.4 218a.2335.4
237b.2394.4 2396.2426.4 2440.26ab.4 26ad.27ff.4 2900.2b95.4 2b97.2bff.4 2ce5.2cea.4
2cef.2cf1.5 2cf9.2cff.4 2d7f.2d7f.5 2de0.2dff.5 2e00.3004.4 3008.3020.4 302a.302d.5
3030.3030.4 3037.3037.4 303d.303f.4 3099.309a.5 30a0.30a0.4 30fb.30fb.4 31c0.31e3.4
4dc0.4dff.4 a490.a4c6.4 a60d.a60f.4 a66f.a672.5 a673.a673.4 a674.a67d.5 a67e.a67f.4
a69e.a69f.5 a6f0.a6f1.5 a700.a721.4 a788.a788.4 a802.a802.5 a806.a806.5 a80b.a80b.5
a825.a826.5 a828.a82b.4 a82c.a82c.5 a838.a839.4 a874.a877.4 a8c4.a8c5.5 a8e0.a8f1.5
a8ff.a8ff.5 a926.a92d.5 a947.a951.5 a980.a982.5 a9b3.a9b3.5 a9b6.a9b9.5 a9bc.a9bd.5
a9e5.a9e5.5 aa29.aa2e.5 aa31.aa32.5 aa35.aa36.5 aa43.aa43.5 aa4c.aa4c.5 aa7c.aa7c.5
aab0.aab0.5 aab2.aab4.5 aab7.aab8.5 aabe.aabf.5 aac1.aac1.5 aaec.aaed.5 aaf6.aaf6.5
ab6a.ab6b.4 abe5.abe5.5 abe8.abe8.5 abed.abed.5 fb1e.fb1e.5 fbb2.fbc2.1 fd3e.fd4f.4
fdcf.fdff.4 fe20.fe2f.5 fe45.fe46.4 fe73.fe73.1 10101.10101.4 10140.1018c.4 10190.101a0.4
101fd.101fd.5 102e0.102e0.5 102e1.102fb.3 10376.1037a.5 10800.1091b.1 1091f.1091f.4
10920.10a00.1 10a01.10a0f.5 10a10.10a35.1 10a38.10a3f.5 10a40.10ae4.1 10ae5.10ae6.5
10aeb.10b35.1 10b39.10b3f.4 10b40.10d23.1 10d24.10d27.5 10d30.10d39.2 10d40.10d8f.1
10e60.10e7e.2 10e80.10ea9.1 10eab.10eac.5 10ead.10f45.1 10f46.10f50.5 10f51.10f81.1
10f82.10f85.5 10f86.10ff6.1 11001.11001.5 11038.11046.5 11052.11065.4 11070.11070.5
11073.11074.5 1107f.11081.5 110b3.110b6.5 110b9.110ba.5 110c2.110c2.5 11100.11102.5
11127.1112b.5 1112d.11134.5 11173.11173.5 11180.11181.5 111b6.111be.5 111c9.111cc.5
111cf.111cf.5 1122f.11231.5 11234.11234.5 11236.11237.5 1123e.1123e.5 112df.112df.5
112e3.112ea.5 11300.11301.5 1133b.1133c.5 11340.11340.5 11366.11374.5 11438.1143f.5
11442.11444.5 11446.11446.5 1145e.1145e.5 114b3.114b8.5 114ba.114ba.5 114bf.114c0.5
114c2.114c3.5 115b2.115b5.5 115bc.115bd.5 115bf.115c0.5 115dc.115dd.5 11633.1163a.5
1163d.1163d.5 1163f.11640.5 11660.1166c.4 116ab.116ab.5 116ad.116ad.5 116b0.116b5.5
116b7.116b7.5 1171d.1171f.5 11722.11725.5 11727.1172b.5 1182f.11837.5 11839.1183a.5
1193b.1193c.5 1193e.1193e.5 11943.11943.5 119d4.119db.5 119e0.119e0.5 11a01.11a06.5
11a09.11a0a.5 11a33.11a38.5 11a3b.11a3e.5 11a47.11a47.5 11a51.11a56.5 11a59.11a5b.5
11a8a.11a96.5 11a98.11a99.5 11c30.11c3d.5 11c92.11ca7.5 11caa.11cb0.5 11cb2.11cb3.5
11cb5.11cb6.5 11d31.11d45.5 11d47.11d47.5 11d90.11d91.5 11d95.11d95.5 11d97.11d97.5
11ef3.11ef4.5 11fd5.11ff1.4 16af0.16af4.5 16b30.16b36.5 16f4f.16f4f.5 16f8f.16f92.5
16fe2.16fe2.4 16fe4.16fe4.5 1bc9d.1bc9e.5 1cf00.1cf46.5 1d167.1d169.5 1d17b.1d182.5
1d185.1d18b.5 1d1aa.1d1ad.5 1d1e9.1d241.4 1d242.1d244.5 1d245.1d245.4 1d300.1d356.4
1da00.1da36.5 1da3b.1da6c.5 1da75.1da75.5 1da84.1da84.5 1da9b.1daaf.5 1e000.1e02a.5
1e130.1e136.5 1e2ae.1e2ae.5 1e2ec.1e2ef.5 1e2ff.1e2ff.4 1e800.1e8cf.1 1e8d0.1e8d6.5
1e922.1e943.1 1e944.1e94a.5 1e94b.1ed3d.1 1eef0.1f12f.4 1f16d.1f16f.4 1f1ad.1f1ad.4
1f260.1f6d7.4 1f6dd.1f773.4 1f780.1f7d8.4 1f7e0.1f8b1.4 1f900.1fa53.4 1fa60.1fa74.4
1fa78.1fa86.4 1fa90.1faac.4 1fab0.1faba.4 1fac0.1fac5.4 1fad0.1fad9.4 1fae0.1fae7.4
1faf0.1faf6.4 1fb00.1fbca.4"

/-- The value that rows `[first, last, value]` give a character, or zero. -/
def valueOf (rows : List (List Nat)) (char : Char) : Nat :=
  let covering? : List Nat → Option Nat
    | [first, last, value] =>
      if first ≤ char.toNat ∧ char.toNat ≤ last then some value else none
    | _ => none
  (rows.findSome? covering?).getD 0

/-- Whether a character is a mark. -/
def isMark (char : Char) : Bool :=
  markRows.any fun
    | [first, last] => first ≤ char.toNat && char.toNat ≤ last
    | _ => false

/-! ### Joiners -/

/-- The way the nearest character joins that joining does not look through. -/
def nearestJoining (chars : List Char) : Nat :=
  match chars.dropWhile fun char => valueOf joiningRows char = 1 with
  | [] => 0
  | char :: _ => valueOf joiningRows char

/-- Whether every joiner of a label stands in a context that allows it. `before` holds the
characters already seen, last first. -/
def joinersAllowed (before : List Char) : List Char → Bool
  | [] => true
  | char :: rest =>
    let afterVirama := match before with
      | [] => false
      | last :: _ => combiningClass last = 9
    let betweenLetters := [2, 4].contains (nearestJoining before) &&
      [3, 4].contains (nearestJoining rest)
    let allowed :=
      if char.toNat = 0x200c then afterVirama || betweenLetters
      else if char.toNat = 0x200d then afterVirama
      else true
    allowed && joinersAllowed (char :: before) rest

/-! ### Direction -/

/-- Whether a character makes the name it stands in one of both directions. -/
def runsLeft (char : Char) : Bool := [1, 2].contains (valueOf directionRows char)

/-- Whether a label keeps one direction: its first letter sets it, all others agree with it, and
it ends in a letter or a digit of that direction, marks apart. -/
def keepsDirection (label : List Char) : Bool :=
  let directions := label.map (valueOf directionRows)
  let last := (directions.reverse.dropWhile (· = 5)).head?
  match directions with
  | [] => true
  | 1 :: _ =>
    directions.all (fun direction => direction ≠ 0 && direction ≠ 6) &&
      [some 1, some 2, some 3].contains last &&
      !(directions.contains 2 && directions.contains 3)
  | 0 :: _ =>
    directions.all (fun direction => direction ≠ 1 && direction ≠ 2 && direction ≠ 6) &&
      [some 0, some 3].contains last
  | _ => false

end StubResolver.Idna
