
/-!
# Properties of characters that decide where they may stand in a label

Marks are given as a set of code points.  The other two tables have a row for
each range of code points: the distance of its first point from the last point
of the row before in base 36, a letter, and the distance between its first and
its last point.

The letters for the direction of writing are `R` for right-to-left characters,
`A` for Arabic digits, `E` for European digits, `M` for marks, `N` for characters
without a direction of their own and `O` for those that a label with a direction
must not hold; all other characters are written left to right.

The letters for joining are `D` for characters that join on both sides, `L` and
`R` for those that join on one, and `T` for those that are passed over.
-/

namespace AnalyticsQuery
namespace Url
namespace Idna

/-- The combining marks. -/
def markLines : List String :=
  [ "lc 33 7o 6 7c 18 2 0 2 1 2 1 2 0 21 a 1d k h 0 2u 6 3 5 3 1 2 3 10 0 v q 2k a 1n 8 a 0 p 3",
    "2 8 2 2 2 4 18 2 1p 7 17 n 2 w 1j 2 2 h 2 6 b 1 u 2 1l 0 2 6 3 1 3 2 a 0 b 1 r 0 3 2 1l 0",
    "2 4 5 1 3 2 4 0 v 1 4 0 c 2 1l 0 2 7 2 2 2 2 l 1 n 5 2 2 1l 0 2 6 3 1 3 2 8 2 b 1 v 0 1o 4",
    "4 2 2 3 a 0 15 4 1k 0 2 6 2 2 2 3 8 1 c 1 u 2 1l 0 2 6 2 2 2 3 8 1 c 1 t 3 1k 1 2 6 2 2 2",
    "3 a 0 b 1 u 2 1z 0 5 5 2 0 2 7 j 1 1q 0 3 6 d 7 2r 0 3 8 c 5 23 1 s 0 2 0 2 0 5 1 1e j 2 1",
    "6 a 2 z a 0 2t j o 3 5 2 2 2 3 6 4 3 e b 2 0 b 3 jk 2 qb 3 t 2 u 1 v 1 1t v a 0 1a 2 2 0",
    "3a 1 z 0 3b b 5 b 64 4 1m 9 2 s 3 0 1d u 1e 4 1c g 13 8 d 2 v c 1l d 1d j 49 2 2 k 5 0 7 0",
    "3 2 5j 1r k1 w 2db 2 3y 0 2p v ff 5 2y 1 n9x 3 2 9 x 1 29 1 7l 0 4 0 5 0 o 4 5 0 2c 1 1f h",
    "r h e 0 13 7 q c 19 3 1c d 11 0 1w d d 0 9 1 1a 2 1f 0 2 2 3 1 6 1 2 0 16 4 6 1 6l 7 2 1",
    "fn5 0 ki f h f r2 0 6b 0 46 4 1af 2 2 1 6 3 15 2 5 0 4m 1 fy 3 as 1 4a a 1e 3 3f 2 1i e 16",
    "0 3 1 b 3 1a a 8 0 1q 2 11 d h 1 19 0 d 2 1d d 9 3 2 1 2l b 7 0 4h b m 3 1k 1 2 6 3 1 3 2",
    "a 0 b 1 3 6 4 4 5d h o 0 2a j 6k 6 3 8 s 1 2b g 2z c 2u e 75 e 6u 5 2 1 3 3 2 0 2 1 3y 6 3",
    "6 4 0 t 9 15 6 2 3 9 0 a a 1b f ba 7 2 7 2b l 2 d 3f 5 4 0 2 1 2 6 2 0 1v 4 2 1 2 4 9o 3",
    "f0a 4 1o 6 t5 0 2 1i 8 3 2a 0 c 1 f58 1 3mq 19 3 m f3 4 4 5 9 7 3 6 v 3 45 2 1j0 1i 5 1d 9",
    "0 f 0 n 4 2 e 11t 6 2 g 3 6 2 1 2 4 7a 6 ag 0 1q 3 15t 6 32 6 gzhy 6n" ]

/-- The directions of writing other than left to right. -/
def directionLines : List String :=
  [ "0N8 1O4 1Nd 1O4 1Ne 1E9 1N6 rN5 rN9 1O0 1Nz 2N6 1E1 1N0 2N2 1E0 2N4 oN0 wN0 ciN1 8Nd 3Nd",
    "6N8 2Ng 1M33 5N1 9N0 6N1 2N0 33N0 3xM6 75N5 2M18 1R0 1M0 1R0 1M1 1R0 1M1 1R0 1M0 9R10 cA5",
    "1N1 1R0 1N1 1R0 1N0 1R0 1N1 1Ma 1R1b 1Mk 1A9 1N0 1A1 1R2 1M0 1R2s 1M6 1A0 1N0 1M5 1R1 1M1",
    "1N0 1M3 1R1 1E9 1Rm 1M0 1Rt 1Mq 3R2g 1Ma 1R1l 1M8 1R1 1N3 1R0 3M0 1Rn 1M3 1R0 1M8 1R0 1M2",
    "1R0 1M4 3R14 1M2 3R1c 2A1 7M7 1R15 1Mn 1A0 1Mv 1kM0 2M0 5M7 5M0 4M6 bM1 uM0 1nM0 5M3 9M0",
    "lM1 fN1 8N0 3M4 1mM0 5Mg vM1 4M0 cM1 1mM0 5M7 5M0 lM1 eN0 9M7 1nM0 3M0 2M3 9M9 cM1 vM0",
    "1qM0 dM0 12N7 6M0 4M0 1kM0 2M2 6Mg cM1 lN6 3M0 1nM0 gM1 lM1 tM1 1mM1 5M3 9M0 lM1 uM0 21M0",
    "8M4 2jM0 3M6 5N0 8M7 2rM0 3M8 cM5 23M1 sM0 2M0 2M0 1N3 1gMd 2M4 2M1 6M1b aM0 2vM3 2M5 2M1",
    "3M1 qM1 5M2 hM3 eM0 3M1 7M0 gM0 jkM2 1dN9 2vN0 hsO0 rN1 3aM2 uM1 vM1 vM1 1tM1 2M6 9M0 3Ma",
    "8N0 2M0 jNq 1M2 1N0 1M0 3aM1 zM0 3bM2 5M1 aM0 7M2 5N5 49Nx oM1 3M0 1nM0 2M8 2M0 3M7 7Mc",
    "1dM2b 1dM0 2M4 2M0 6M0 15M8 dM1 xM3 3M1 2M2 1lM0 2M1 4M0 2M2 1nM7 3M1 49M2 2Mc 2M6 5M0 7M0",
    "4M1 5jM1r ceN0 2N2 cN2 eN2 eN2 eN1 2Oa 1N2 2R0 1Nn 1O6 1N1b 1O0 1N4 2O3 1N5 1E0 4E5 1N4",
    "2E9 1N4 iNw gMw gN1 2N3 2N1 bN0 2N2 6N5 2N0 2N0 2N0 5N0 cN1 5N4 6N3 3Nf 16Nbw 1yNp 2N6p",
    "1Ej 27Nch 2N9e 75Nlb 6eN5 5M2 8N6 3kM0 2pMv 1Ne3 5O0 1N3 4No aM3 3N0 6N1 6N2 2iM1 1N1 4N0",
    "2jN0 5hNz 1mN1 1eNf tN2 1fNe dN3 4oN3 2sN1 wN0 535N1r h3lN1i 93N2 2oM3 1N0 1M9 1N1 vM1",
    "29M1 fNx 2vN0 3eM0 4M0 5M0 qM1 2N3 1M0 cN1 1nN3 25M1 rMh eM0 13M7 qMa 1bM2 1dM0 3M3 3M1",
    "14M0 1wM5 3M1 3M1 dM0 9M0 1cM0 1gM0 2M2 3M1 6M1 2M0 17M1 9M0 38N1 3eM0 3M0 5M0 fn4R0 1M0",
    "1R9 1N0 1Rer 1Nh 1R3b 8N0 xRc 1N2 1Mf 1N9 7Mf 1N1n 5R3w 3Ng 1E9 1N6 rN5 rNa 3fNt 78N0",
    "1rN24 4Ng 2lM0 6bM0 1Eq 3fM4 w6R7v 4N0 1R68 1Me 1R11 3M7 1R4k 1M1 5R22 4N6 1Rdf 1M3 9A9a",
    "2R15 2M1 1R48 1Ma 1R1c 1M3 1R34 bM0 1jMe cNj bM0 3M1 bM2 1eM3 3M1 8M0 1qM2 11M4 2M7 1rM0",
    "dM1 1hM8 bM3 3M0 2oM2 3M0 2M1 7M0 4hM0 4M7 mM1 1mM1 4M0 12Me 5gM7 3M2 2M0 oM0 2dM5 2M0 5M1",
    "2M1 6nM3 7M1 2M1 sM1 2eM7 3M0 2M1 wNc 1rM0 2M0 3M5 2M0 2uM2 3M3 2M4 78M8 2M1 75M1 2M0 5M0",
    "41M7 5M0 xM5 3M1 15M5 3M3 9M0 aM5 3M2 1bMc 2M1 bbMd 2dMl 3M6 2M1 2M1 3fMk 2M0 21M1 4M0 2M0",
    "9oM1 69Ns etbM4 1oM6 t5M0 1sM3 28N0 2M0 f5lM1 2N3 3mlM1y f5M2 aN7 1M7 3M6 vM3 1oN2g 1M2",
    "1N0 57N2e p1N0 1mN0 1mN0 1mN0 1mN0 bE1d e9M1i 5M1d 9M0 fM0 nMk 11tM16 7aM6 agM0 1qM3 gN0",
    "zlR5r 1M6 16R1v 1M6 1R12o 1hNed bEa 1N4 wN0 1nN5 1qN0 4zN1uy 12E9 gvm0N3i 3lM6n" ]

/-- The joining behaviour of characters. -/
def joiningLines : List String :=
  [ "4tT0 gjT33 7oT6 7cT18 2T0 2T1 2T1 2T0 21Ta 2T0 4D0 2R3 1D0 1R0 1D0 1R0 1D4 1R3 1Dc 2D6 1R0",
    "1D1 1Tk fD1 1T0 1R2 2R2 1Df 1Rh 1D11 1R0 1D1 1R8 1D0 1R0 1D0 1R0 1D1 1R1 2R0 1T6 3T5 3T1",
    "2T3 1R1 bD2 3D0 gT0 1R0 1T0 1D2 1R4 1D3 1R0 1D8 1R0 1D0 1R0 1D0 1R0 1D1 1R0 1Tq 3R0 1Da",
    "1R2 1De 1R1 1D3 1R0 1D0 1R1 1D2 1R1 1D5 13Ta qDw 1T8 aT0 pT3 2T8 2T2 2T4 jR0 1D4 1R1 1D0",
    "1R0 1D9 1R0 1D0 1R2 1T2 5D0 2D3 2R0 1D0 1R1 6Ri 4D0 3D4 1R0 1D0 8T8 1D9 1R2 2R0 1D1 1R1",
    "1D5 1R0 1De 2Tn 2Tv 1kT0 2T0 5T7 5T0 4T6 bT1 uT0 1nT0 5T3 9T0 lT1 rT0 3T1 1mT0 5T1 5T1 3T2",
    "4T0 vT1 4T0 cT1 1mT0 5T4 2T1 5T0 lT1 nT5 2T0 1nT0 3T0 2T3 9T0 8T1 cT1 vT0 1qT0 dT0 1fT0",
    "4T0 1kT0 2T2 6T2 2T3 8T1 cT1 uT0 1nT0 3T0 7T0 6T1 lT1 tT1 1mT1 5T3 9T0 lT1 uT0 21T0 8T2",
    "2T0 2jT0 3T6 dT7 2rT0 3T8 cT6 22T1 sT0 2T0 2T0 1kTd 2T4 2T1 6Ta 2Tz aT0 2vT3 2T5 2T1 3T1",
    "qT1 5T2 hT3 eT0 3T1 7T0 gT0 jkT2 qbT2 uT1 vT1 vT1 1tT1 2T6 9T0 3Ta aT0 16D0 4T2 2T0 hD2g",
    "dT1 1Dx 1T0 1D0 3aT2 5T1 aT0 7T2 64T1 3T0 1nT0 2T6 2T0 2T0 3T7 7T9 3T0 1dT19 3Tb lT3 1dT0",
    "2T4 2T0 6T0 15T8 dT1 xT3 3T1 2T2 1lT0 2T1 4T0 2T2 1nT7 3T1 49T2 2Tc 2T6 5T0 7T0 4T1 5jT1r",
    "ekT0 3T1 rT4 1eT4 6T5 2pTw 2dbT2 3yT0 2pTv ffT3 30T1 n9xT3 2T9 xT1 29T1 7lT0 4T0 5T0 qT1",
    "6T0 kD1d 1L0 2aT1 rTh eT0 13T7 qTa 1bT2 1dT0 3T3 3T1 14T0 1wT5 3T1 3T1 dT0 9T0 1cT0 1gT0",
    "2T2 3T1 6T1 2T0 17T1 9T0 6nT0 3T0 5T0 fn5T0 kiTf hTf 5sT0 6yT2 eaT0 6bT0 46T4 1afT2 2T1",
    "6T3 15T2 5T0 3lD4 1R0 2R0 2R1 3L0 1R4 1D3 1L0 1D4 1R0 1D2 1R0 3R0 1T1 5D3 1R0 41D0 1R0 1D0",
    "1R2 1D2 1R0 1D1 1R0 1D0 1R1 1D0 1R0 oR3 1D1 9eL0 1Dw 1R0 1D0 1T3 1uT4 8uT1 mR0 1D1 2D1",
    "1fT5 1dD2 1R0 1Dg 2Ta 1D2 1R0 sD3 1R1 1Db 1T3 17D0 2D1 1R2 2D0 1R1 1D1 1R0 1D1 2D0 1R1 1D0",
    "5R0 1D0 1L0 1iT0 1jTe 16T0 3T1 bT2 1eT3 3T1 8T0 1qT2 11T4 2T7 1rT0 dT1 1hT8 bT3 3T0 2oT2",
    "3T0 2T1 7T0 3T0 4eT0 4T7 mT1 1mT1 4T0 12T6 4T4 1zT5 eT0 2T0 2T0 fT1 2eT7 3T2 2T0 oT0 2dT5",
    "2T0 5T1 2T1 6nT3 7T1 2T1 sT1 2eT7 3T0 2T1 2zT0 2T0 3T5 2T0 2uT0 2T0 3T3 2T4 78T8 2T1 75T1",
    "2T0 5T0 41T3 3T1 5T0 xT9 15T5 3T3 9T0 aT5 3T2 1bTc 2T1 5jT0 2T2 2T0 5mT6 2T5 2T0 2bTl 3T6",
    "2T1 2T1 3fT5 4T0 2T1 2T6 2T0 21T1 4T0 2T0 9oT1 cT1 1hT4 6T0 2T0 oT0 446Tg 7Te 8uhTb 4T2",
    "1xdT4 1oT6 t5T0 1sT3 2aT0 f5lT1 2T3 3mlT19 3Tm f5T2 aTf 3T6 vT3 45T2 1j0T1i 5T1d 9T0 fT0",
    "nT4 2Te 11tT6 2Tg 3T6 2T1 2T4 2tT0 4hT6 agT0 1qT3 e5T3 73T1 6sT0 3T0 8T1 6T0 d7T6 16D1v",
    "1T7 gzauT0 vT2n 3lT6n" ]

end Idna
end Url
end AnalyticsQuery
