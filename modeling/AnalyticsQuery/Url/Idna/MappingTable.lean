
/-!
# How characters are mapped in domain names

A row of the table holds for the code points from its own to the one before the
next row.  It is written as its distance from the row before in base 36, and a
letter: `V` for characters that stay, `I` for those that are left out, `X` for
those that no domain name may hold, and `M` for those that are replaced by the
code points that follow.
-/

namespace AnalyticsQuery
namespace Url
namespace Idna

/-- The rows above the ASCII range. -/
def mappingLines : List String :=
  [ "3kX wMw 1V 7Mw,lk 1V 1M2p 1V 2I 1V 1Mw,lg 1V 2M1e 1M1f 1Mw,ld 1Mqk 1V 2Mw,mf 1M1d 1M33 1V",
    "1M1d,6dg,1g 1M1d,6dg,1e 1M1f,6dg,1g 1V 1M68 1M69 1M6a 1M6b 1M6c 1M6d 1M6e 1M6f 1M6g 1M6h",
    "1M6i 1M6j 1M6k 1M6l 1M6m 1M6n 1M6o 1M6p 1M6q 1M6r 1M6s 1M6t 1M6u 1V 1M6w 1M6x 1M6y 1M6z",
    "1M70 1M71 1M72 1V xM75 1V 1M77 1V 1M79 1V 1M7b 1V 1M7d 1V 1M7f 1V 1M7h 1V 1M7j 1V 1M7l 1V",
    "1M7n 1V 1M7p 1V 1M7r 1V 1M7t 1V 1M7v 1V 1M7x 1V 1M7z 1V 1M81 1V 1M83 1V 1M85 1V 1M87 1V",
    "1M89 1V 1M8b 1V 1M8d 1V 1M8f 1V 1M2x,lj 1V 1M2x,2y 2M8l 1V 1M8n 1V 2M8q 1V 1M8s 1V 1M8u 1V",
    "1M30,53 2M8y 1V 1M90 1V 1M92 1V 1M94 1V 1Mjg,32 1M97 1V 1M99 1V 1M9b 1V 1M9d 1V 1M9f 1V",
    "1M9h 1V 1M9j 1V 1M9l 1V 1M9n 1V 1M9p 1V 1M9r 1V 1M9t 1V 1M9v 1V 1M9x 1V 1M9z 1V 1Ma1 1V",
    "1Ma3 1V 1Ma5 1V 1Ma7 1V 1Ma9 1V 1Mab 1V 1Mad 1V 1Maf 1V 1M73 1Mai 1V 1Mak 1V 1Mam 1V 1M37",
    "1V 1Mgj 1Mar 1V 1Mat 1V 1Mgk 1Maw 1V 1Mgm 1Mgn 1Mb0 1V 2Md9 1Mgp 1Mgr 1Mb6 1V 1Mgw 1Mgz 1V",
    "1Mh5 1Mh4 1Mbd 1V 3Mhb 1Mhe 1V 1Mhh 1Mbl 1V 1Mbn 1V 1Mbp 1V 1Mhs 1Mbs 1V 1Mhv 1V 2Mbx 1V",
    "1Mi0 1Mc0 1V 1Mi2 1Mi3 1Mc4 1V 1Mc6 1V 1Mia 1Mc9 1V 3Mcd 1V 7M2s,am 3M30,2y 3M32,2y 3Mcu",
    "1V 1Mcw 1V 1Mcy 1V 1Md0 1V 1Md2 1V 1Md4 1V 1Md6 1V 1Md8 1V 2Mdb 1V 1Mdd 1V 1Mdf 1V 1Mdh 1V",
    "1Mdj 1V 1Mdl 1V 1Mdn 1V 1Mdp 1V 1Mdr 1V 2M2s,3e 3Mdx 1V 1Mb9 1Mcf 1Me1 1V 1Me3 1V 1Me5 1V",
    "1Me7 1V 1Me9 1V 1Meb 1V 1Med 1V 1Mef 1V 1Meh 1V 1Mej 1V 1Mel 1V 1Men 1V 1Mep 1V 1Mer 1V",
    "1Met 1V 1Mev 1V 1Mex 1V 1Mez 1V 1Mf1 1V 1Mf3 1V 1Mbi 1V 1Mf7 1V 1Mf9 1V 1Mfb 1V 1Mfd 1V",
    "1Mff 1V 1Mfh 1V 1Mfj 1V 1Mfl 1V 1Mfn 1V 7M8rp 1Mfw 1V 1Mbe 1M8rq 1V 2Mg2 1V 1Mao 1Mi1 1Mi4",
    "1Mg7 1V 1Mg9 1V 1Mgb 1V 1Mgd 1V 1Mgf 1V 2pM2w 1Mh2 1M2y 1M36 1Mhl 1Mhn 1Mht 1M3b 1M3d 1V",
    "vMw,li 1Mw,lj 1Mw,lm 1Mw,mg 1Mw,lf 1Mw,ln 1V 2Mgz 1M30 1M37 1M3c 1Mid 1V 2jMlc 1Mld 1V",
    "1Mlv 1Mlk,ld 1Mqh 1V 9I 1V wMoh 1V 1Moj 1V 1Mjd 1V 1Mon 1V 1X 2Mw,qh 1V 3M1n 1Ms3 1X",
    "4Mw,ld 1Mw,lk,ld 1Mq4 1M53 1Mq5 1Mq6 1Mq7 1X 1Mr0 1X 1Mr1 1Mr2 1V 1Mq9 1Mqa 1Mqb 1Mqc 1Mqd",
    "1Mqe 1Mqf 1Mqg 1Mqh 1Mqi 1Mqj 1Mqk 1Mql 1Mqm 1Mqn 1Mqo 1Mqp 1X 1Mqr 1Mqs 1Mqt 1Mqu 1Mqv",
    "1Mqw 1Mqx 1Mqy 1Mqz 1V zMrb 1Mqa 1Mqg 1Mqt 1Mr1 1Mqz 1Mqu 1Mqo 1V 1Mrd 1V 1Mrf 1V 1Mrh 1V",
    "1Mrj 1V 1Mrl 1V 1Mrn 1V 1Mrp 1V 1Mrr 1V 1Mrt 1V 1Mrv 1V 1Mrx 1V 1Mrz 1V 1Mqi 1Mqp 1Mqr 1V",
    "1Mqg 1Mqd 1V 1Ms8 1V 1Mqr 1Msb 1V 2Mor 1Mos 1Mot 1Muo 1Mup 1Muq 1Mur 1Mus 1Mut 1Muu 1Muv",
    "1Muw 1Mux 1Muy 1Muz 1Mv0 1Mv1 1Mv2 1Mv3 1Mts 1Mtt 1Mtu 1Mtv 1Mtw 1Mtx 1Mty 1Mtz 1Mu0 1Mu1",
    "1Mu2 1Mu3 1Mu4 1Mu5 1Mu6 1Mu7 1Mu8 1Mu9 1Mua 1Mub 1Muc 1Mud 1Mue 1Muf 1Mug 1Muh 1Mui 1Muj",
    "1Muk 1Mul 1Mum 1Mun 1V 1cMv5 1V 1Mv7 1V 1Mv9 1V 1Mvb 1V 1Mvd 1V 1Mvf 1V 1Mvh 1V 1Mvj 1V",
    "1Mvl 1V 1Mvn 1V 1Mvp 1V 1Mvr 1V 1Mvt 1V 1Mvv 1V 1Mvx 1V 1Mvz 1V 1Mw1 1V 9Mwb 1V 1Mwd 1V",
    "1Mwf 1V 1Mwh 1V 1Mwj 1V 1Mwl 1V 1Mwn 1V 1Mwp 1V 1Mwr 1V 1Mwt 1V 1Mwv 1V 1Mwx 1V 1Mwz 1V",
    "1Mx1 1V 1Mx3 1V 1Mx5 1V 1Mx7 1V 1Mx9 1V 1Mxb 1V 1Mxd 1V 1Mxf 1V 1Mxh 1V 1Mxj 1V 1Mxl 1V",
    "1Mxn 1V 1Mxp 1V 1Mxr 1V 1My7 1Mxu 1V 1Mxw 1V 1Mxy 1V 1My0 1V 1My2 1V 1My4 1V 1My6 1V 2My9",
    "1V 1Myb 1V 1Myd 1V 1Myf 1V 1Myh 1V 1Myj 1V 1Myl 1V 1Myn 1V 1Myp 1V 1Myr 1V 1Myt 1V 1Myv 1V",
    "1Myx 1V 1Myz 1V 1Mz1 1V 1Mz3 1V 1Mz5 1V 1Mz7 1V 1Mz9 1V 1Mzb 1V 1Mzd 1V 1Mzf 1V 1Mzh 1V",
    "1Mzj 1V 1Mzl 1V 1Mzn 1V 1Mzp 1V 1Mzr 1V 1Mzt 1V 1Mzv 1V 1Mzx 1V 1Mzz 1V 1M101 1V 1M103 1V",
    "1M105 1V 1M107 1V 1M109 1V 1M10b 1V 1M10d 1V 1M10f 1V 1M10h 1V 1M10j 1V 1M10l 1V 1M10n 1V",
    "1M10p 1V 1M10r 1V 1M10t 1V 1M10v 1V 1X 1M129 1M12a 1M12b 1M12c 1M12d 1M12e 1M12f 1M12g",
    "1M12h 1M12i 1M12j 1M12k 1M12l 1M12m 1M12n 1M12o 1M12p 1M12q 1M12r 1M12s 1M12t 1M12u 1M12v",
    "1M12w 1M12x 1M12y 1M12z 1M130 1M131 1M132 1M133 1M134 1M135 1M136 1M137 1M138 1M139 1M13a",
    "1X 2V 1aM12d,136 1V 3X 2V 3X 1V 1jX 8V rX 4V 6X hV mX 1V 2gM17r,19w 1M18o,19w 1M1c7,19w",
    "1M18q,19w 1V 2sX 1V 1cX 2V 1nX 2V 2tX eV 1nX 2V 1dX 2V fX 1V sX 2V 1X 1V bX 5V wX 7V 23X",
    "1V 39M1sl,1to 1M1sm,1to 1M1sn,1to 1M1ss,1to 1M1sx,1to 1M1sy,1to 1M1t7,1to 1M1tb,1to 1V 10X",
    "1V 8X 2V 2X 2V mX 1V 7X 1V 1X 3V 4X 2V 9X 2V 2X 2V 4X 8V 1X 4M1wh,1x8 1M1wi,1x8 1X",
    "1M1wv,1x8 1V 4X 2V pX 2V 3X 1V 6X 4V 2X 2V mX 1V 7X 1V 1M20i,20s 1X 1V 1M20o,20s 1X 1V 2X",
    "2V 1X 1V 5X 4V 2X 2V 3X 3V 1X 7M1zq,20s 1M1zr,20s 1M1zw,20s 1V 1X 1M20b,20s 1X 7V hX aV 3X",
    "1V 9X 1V 3X 1V mX 1V 7X 1V 2X 1V 5X 2V aX 1V 3X 1V 3X 2V 1X fV 4X 2V cX 7V 7X 1V 3X 1V 8X",
    "2V 2X 2V mX 1V 7X 1V 2X 1V 5X 2V 9X 2V 2X 2V 3X 7V 3X 4M275,27w 1M276,27w 1X 1V 5X 2V iX",
    "aV 2X 1V 6X 3V 3X 1V 4X 3V 2X 1V 1X 1V 2X 3V 2X 3V 3X 3V cX 4V 5X 3V 3X 1V 4X 2V 1X 6V 1X",
    "eV lX 5V dX 1V 3X 1V nX 1V gX 2V 9X 1V 3X 1V 4X 7V 2X 1V 3X 1V 2X 2V 4X 2V aX 7V mX 1V 3X",
    "1V nX 1V aX 1V 5X 2V 9X 1V 3X 1V 4X 7V 2X 5V 3X 1V 4X 2V aX 1V 3X cV dX 1V 3X 1V 1fX 1V 3X",
    "1V 6X 4V gX 2V qX 1V 3X 1V iX 3V oX 1V 9X 1V 1X 2V 7X 3V 1X 4V 6X 1V 1X 1V 8X 6V aX 2V 3X",
    "cV 1eM2tp,2sy 1V 7X 4V tX 11V 2X 1V 1X 1V 5X 1V oX 1V 1X 1V cM2x9,2wi 1V aX 2V 5X 1V 1X 1V",
    "7X 1V aX 2M2wb,2vt 1M2wb,2w1 1V 2X wV cM2yz 1V 1iM30i,33r 1V 4X 1V 4M30s,33r 1V 4M30x,33r",
    "1V 4M312,33r 1V 4M317,33r 1V cM30g,33p 1V 3X 4V 2M31t,31u 1V 1M31t,31w 1M33m,328",
    "1M33m,31t,328 1M33n,328 1M33n,31t,328 1V 7M31t,328 1V hM32q,33r 1V 4X 1V 4M330,33r 1V",
    "4M335,33r 1V 4M33a,33r 1V 4M33f,33r 1V cM32o,33p 1V 3X 1V fX 1V dX 11V 4gM8w0 1M8w1 1M8w2",
    "1M8w3 1M8w4 1M8w5 1M8w6 1M8w7 1M8w8 1M8w9 1M8wa 1M8wb 1M8wc 1M8wd 1M8we 1M8wf 1M8wg 1M8wh",
    "1M8wi 1M8wj 1M8wk 1M8wl 1M8wm 1M8wn 1M8wo 1M8wp 1M8wq 1M8wr 1M8ws 1M8wt 1M8wu 1M8wv 1M8ww",
    "1M8wx 1M8wy 1M8wz 1M8x0 1M8x1 1X 1M8x3 1X 5M8x9 1X 2V 18M3bw 1V 2qI 2V 6gX 1V 4X 2V 7X 1V",
    "1X 1V 4X 2V 15X 1V 4X 2V xX 1V 4X 2V 7X 1V 1X 1V 4X 2V fX 1V 1lX 1V 4X 2V 1vX 2V wX 3V qX",
    "6V 2eX 2M3xs 1M3xt 1M3xu 1M3xv 1M3xw 1M3xx 1X 2V hsX 1V sX 3V 2hX 7V mX 9V oX 9V kX cV dX",
    "1V 3X 1V 2X cV 1gI 2V 14X 2V aX 6V aX 6V bI 5V aX 6V 2hX 7V 17X 5V 1yX aV vX 1V cX 4V cX",
    "4V 1X 3V 16X 2V 5X bV 18X 4V qX 6V bX 3V 1qX 2V 1tX 1V tX 2V bX 6V aX 6V eX 2V 1aX 2V cX",
    "kV 25X 1V 4mX 8V 1oX 3V fX 3V 1fMtu 1Mtw 1Mu6 1Mu9 1Mua 2Mui 1Mv7 1Mwuj 1M5my 1V 1X 5M3bk",
    "1M3bl 1M3bm 1M3bn 1M3bo 1M3bp 1M3bq 1M3br 1M3bs 1M3bt 1M3bu 1M3bv 1M3bw 1M3bx 1M3by 1M3bz",
    "1M3c0 1M3c1 1M3c2 1M3c3 1M3c4 1M3c5 1M3c6 1M3c7 1M3c8 1M3c9 1M3ca 1M3cb 1M3cc 1M3cd 1M3ce",
    "1M3cf 1M3cg 1M3ch 1M3ci 1M3cj 1M3ck 1M3cl 1M3cm 1M3cn 1M3co 1M3cp 1M3cq 1X 2M3ct 1M3cu",
    "1M3cv 1V 8X 8V 17X 5V 18M2p 1M6e 1M2q 1V 1M2s 1M2t 1Md9 1M2v 1M2w 1M2x 1M2y 1M2z 1M30 1M31",
    "1M32 1V 1M33 1Mf7 1M34 1M36 1M38 1M39 1M3b 1M2p 1Mgg 1Mgh 1M5qa 1M2q 1M2s 1M2t 1Mgp 1Mgr",
    "1Mgs 1M2v 1V 1M2z 1M31 1M97 1M33 1Mgk 1M5qu 1M5qv 1M34 1M38 1M39 1M5r1 1Mhb 1M3a 1M5r9",
    "1Mqa 1Mqb 1Mqc 1Mqu 1Mqv 1M2x 1M36 1M39 1M3a 1Mqa 1Mqb 1Mqp 1Mqu 1Mqv 1V dMu5 1V yMgi 1M2r",
    "1Mgl 1M6o 1Mgs 1M2u 1Mgv 1Mgx 1Mh1 1Mh4 1Mh5 1Mh6 1M5tn 1Mil 1Mh9 1M5tx 1Min 1Mhd 1Mhc",
    "1Mhe 1Mhf 1Mhg 1Mhh 1Mhk 1Mhu 1Mhv 1Mbv 1Mi1 1Mi2 1M5r0 1Mi3 1Mi4 1M3e 1Mi8 1Mi9 1Mia 1Mqg",
    "1V 1sM5xd 1V 1M5xf 1V 1M5xh 1V 1M5xj 1V 1M5xl 1V 1M5xn 1V 1M5xp 1V 1M5xr 1V 1M5xt 1V 1M5xv",
    "1V 1M5xx 1V 1M5xz 1V 1M5y1 1V 1M5y3 1V 1M5y5 1V 1M5y7 1V 1M5y9 1V 1M5yb 1V 1M5yd 1V 1M5yf",
    "1V 1M5yh 1V 1M5yj 1V 1M5yl 1V 1M5yn 1V 1M5yp 1V 1M5yr 1V 1M5yt 1V 1M5yv 1V 1M5yx 1V 1M5yz",
    "1V 1M5z1 1V 1M5z3 1V 1M5z5 1V 1M5z7 1V 1M5z9 1V 1M5zb 1V 1M5zd 1V 1M5zf 1V 1M5zh 1V 1M5zj",
    "1V 1M5zl 1V 1M5zn 1V 1M5zp 1V 1M5zr 1V 1M5zt 1V 1M5zv 1V 1M5zx 1V 1M5zz 1V 1M601 1V 1M603",
    "1V 1M605 1V 1M607 1V 1M609 1V 1M60b 1V 1M60d 1V 1M60f 1V 1M60h 1V 1M60j 1V 1M60l 1V 1M60n",
    "1V 1M60p 1V 1M60r 1V 1M60t 1V 1M60v 1V 1M60x 1V 1M60z 1V 1M611 1V 1M613 1V 1M615 1V 1M617",
    "1V 1M619 1V 1M61b 1V 1M61d 1V 1M61f 1V 1M61h 1V 5M2p,ji 1M601 1V 2M67 1V 1M61t 1V 1M61v 1V",
    "1M61x 1V 1M61z 1V 1M621 1V 1M623 1V 1M625 1V 1M627 1V 1M629 1V 1M62b 1V 1M62d 1V 1M62f 1V",
    "1M62h 1V 1M62j 1V 1M62l 1V 1M62n 1V 1M62p 1V 1M62r 1V 1M62t 1V 1M62v 1V 1M62x 1V 1M62z 1V",
    "1M631 1V 1M633 1V 1M635 1V 1M637 1V 1M639 1V 1M63b 1V 1M63d 1V 1M63f 1V 1M63h 1V 1M63j 1V",
    "1M63l 1V 1M63n 1V 1M63p 1V 1M63r 1V 1M63t 1V 1M63v 1V 1M63x 1V 1M63z 1V 1M641 1V 1M643 1V",
    "1M645 1V 1M647 1V 1M649 1V 1M64b 1V 1M64d 1V 1M64f 1V 9M64g 1M64h 1M64i 1M64j 1M64k 1M64l",
    "1M64m 1M64n 1V 6X 2M64w 1M64x 1M64y 1M64z 1M650 1M651 1X 2V 8M65c 1M65d 1M65e 1M65f 1M65g",
    "1M65h 1M65i 1M65j 1V 8M65s 1M65t 1M65u 1M65v 1M65w 1M65x 1M65y 1M65z 1V 6X 2M668 1M669",
    "1M66a 1M66b 1M66c 1M66d 1X 2V 8X 1M66p 1X 1M66r 1X 1M66t 1X 1M66v 1V 8M674 1M675 1M676",
    "1M677 1M678 1M679 1M67a 1M67b 1V 1Mq4 1V 1Mq5 1V 1Mq6 1V 1Mq7 1V 1Mr0 1V 1Mr1 1V 1Mr2 1X",
    "2M64g,qh 1M64h,qh 1M64i,qh 1M64j,qh 1M64k,qh 1M64l,qh 1M64m,qh 1M64n,qh 1M64g,qh 1M64h,qh",
    "1M64i,qh 1M64j,qh 1M64k,qh 1M64l,qh 1M64m,qh 1M64n,qh 1M65c,qh 1M65d,qh 1M65e,qh 1M65f,qh",
    "1M65g,qh 1M65h,qh 1M65i,qh 1M65j,qh 1M65c,qh 1M65d,qh 1M65e,qh 1M65f,qh 1M65g,qh 1M65h,qh",
    "1M65i,qh 1M65j,qh 1M674,qh 1M675,qh 1M676,qh 1M677,qh 1M678,qh 1M679,qh 1M67a,qh 1M67b,qh",
    "1M674,qh 1M675,qh 1M676,qh 1M677,qh 1M678,qh 1M679,qh 1M67a,qh 1M67b,qh 1V 2M67k,qh",
    "1Mq9,qh 1Mq4,qh 1X 1V 1M69i,qh 1M69c 1M69d 1M67k 1Mq4 1Mq9,qh 1Mw,lv 1Mqh 1Mw,lv 1Mw,n6",
    "1Mw,lk,n6 1M67o,qh 1Mqf,qh 1Mq6,qh 1X 1V 1M69y,qh 1M67m 1Mq5 1M67o 1Mq6 1Mqf,qh 1Mw,lv,lc",
    "1Mw,lv,ld 1Mw,lv,n6 1V 3Mpc 1X 2V 2M6a8 1M6a9 1M67q 1Mq7 1X 1Mw,lw,lc 1Mw,lw,ld 1Mw,lw,n6",
    "1V 3Mq8 1V 4M6ao 1M6ap 1M67u 1Mr1 1M6at 1Mw,lk,lc 1Mw,lk,ld 1M2o 1X 2M67w,qh 1Mqx,qh",
    "1Mr2,qh 1X 1V 1M6ba,qh 1M67s 1Mr0 1M67w 1Mr2 1Mqx,qh 1Mw,ld 1Mw,lw 1X 1Mw bI 1V 2X 2V",
    "1M6c0 1V 5Mw,mr 1V cX 3V 1X 7Mw 1V 3M6cy,6cy 1M6cy,6cy,6cy 1V 1M6d1,6d1 1M6d1,6d1,6d1 1V",
    "4Mx,x 1V 1Mw,lh 1V 8M1r,1r 1M1r,x 1Mx,1r 1V dM6cy,6cy,6cy,6cy 1V 7Mw 1I 5X 5I 6M1c 1M2x 1X",
    "2M1g 1M1h 1M1i 1M1j 1M1k 1M1l 1M17 1M6qa 1M1p 1M14 1M15 1M32 1M1c 1M1d 1M1e 1M1f 1M1g 1M1h",
    "1M1i 1M1j 1M1k 1M1l 1M17 1M6qa 1M1p 1M14 1M15 1X 1M2p 1M2t 1M33 1M3c 1Mgp 1M2w 1M2z 1M30",
    "1M31 1M32 1M34 1M37 1M38 1X 3V 8M36,37 1V pX eV xX fM2p,1b,2r 1M2p,1b,37 1M2r 1M4w,2r 1V",
    "1M2r,1b,33 1M2r,1b,39 1Mgr 1V 1M4w,2u 1M2v 1M2w 4M87 1M2x 2M30 2V 1M32 1M32,33 1V 2M34",
    "1M35 1M36 3V 2M37,31 1M38,2t,30 1M38,31 1V 1M3e 1V 1Mqx 1V 1M3e 1V 1M2z 1M6d 1M2q 1M2r 1V",
    "1M2t 2M2u 1M6ku 1M31 1M33 1M15c 1M15d 1M15e 1M15f 1M2x 1V 1M2u,2p,3c 1Mqo 1Mqb 2Mqo 1M6q9",
    "1V 4M2s 2M2t 1M2x 1M2y 1V 6M1d,6dg,1j 1M1d,6dg,1l 1M1d,6dg,1d,1c 1M1d,6dg,1f 1M1e,6dg,1f",
    "1M1d,6dg,1h 1M1e,6dg,1h 1M1f,6dg,1h 1M1g,6dg,1h 1M1d,6dg,1i 1M1h,6dg,1i 1M1d,6dg,1k",
    "1M1f,6dg,1k 1M1h,6dg,1k 1M1j,6dg,1k 1M1d,6dg 1M2x 1M2x,2x 1M2x,2x,2x 1M2x,3a 1M3a 1M3a,2x",
    "1M3a,2x,2x 1M3a,2x,2x,2x 1M2x,3c 1M3c 1M3c,2x 1M3c,2x,2x 1M30 1M2r 1M2s 1M31 1M2x 1M2x,2x",
    "1M2x,2x,2x 1M2x,3a 1M3a 1M3a,2x 1M3a,2x,2x 1M3a,2x,2x,2x 1M2x,3c 1M3c 1M3c,2x 1M3c,2x,2x",
    "1M30 1M2r 1M2s 1M31 1V 3M6mc 1V 5M1c,6dg,1f 1V 2X 4V 4cM6qz,6qz 1M6qz,6qz,6qz 1V 1M6r2,6r2",
    "1M6r2,6r2,6r2 1V 6wM9hk 1M9hl 1V 73X mV bX lM1d 1M1e 1M1f 1M1g 1M1h 1M1i 1M1j 1M1k 1M1l",
    "1M1d,1c 1M1d,1d 1M1d,1e 1M1d,1f 1M1d,1g 1M1d,1h 1M1d,1i 1M1d,1j 1M1d,1k 1M1d,1l 1M1e,1c",
    "1M14,1d,15 1M14,1e,15 1M14,1f,15 1M14,1g,15 1M14,1h,15 1M14,1i,15 1M14,1j,15 1M14,1k,15",
    "1M14,1l,15 1M14,1d,1c,15 1M14,1d,1d,15 1M14,1d,1e,15 1M14,1d,1f,15 1M14,1d,1g,15",
    "1M14,1d,1h,15 1M14,1d,1i,15 1M14,1d,1j,15 1M14,1d,1k,15 1M14,1d,1l,15 1M14,1e,1c,15 1X",
    "kM14,2p,15 1M14,2q,15 1M14,2r,15 1M14,2s,15 1M14,2t,15 1M14,2u,15 1M14,2v,15 1M14,2w,15",
    "1M14,2x,15 1M14,2y,15 1M14,2z,15 1M14,30,15 1M14,31,15 1M14,32,15 1M14,33,15 1M14,34,15",
    "1M14,35,15 1M14,36,15 1M14,37,15 1M14,38,15 1M14,39,15 1M14,3a,15 1M14,3b,15 1M14,3c,15",
    "1M14,3d,15 1M14,3e,15 1M2p 1M2q 1M2r 1M2s 1M2t 1M2u 1M2v 1M2w 1M2x 1M2y 1M2z 1M30 1M31",
    "1M32 1M33 1M34 1M35 1M36 1M37 1M38 1M39 1M3a 1M3b 1M3c 1M3d 1M3e 1M2p 1M2q 1M2r 1M2s 1M2t",
    "1M2u 1M2v 1M2w 1M2x 1M2y 1M2z 1M30 1M31 1M32 1M33 1M34 1M35 1M36 1M37 1M38 1M39 1M3a 1M3b",
    "1M3c 1M3d 1M3e 1M1c 1V 10hM6qz,6qz,6qz,6qz 1V 2vM1m,1m,1p 1M1p,1p 1M1p,1p,1p 1V 2tM8gt,mw",
    "1V 47X 2V 3uM8q8 1M8q9 1M8qa 1M8qb 1M8qc 1M8qd 1M8qe 1M8qf 1M8qg 1M8qh 1M8qi 1M8qj 1M8qk",
    "1M8ql 1M8qm 1M8qn 1M8qo 1M8qp 1M8qq 1M8qr 1M8qs 1M8qt 1M8qu 1M8qv 1M8qw 1M8qx 1M8qy 1M8qz",
    "1M8r0 1M8r1 1M8r2 1M8r3 1M8r4 1M8r5 1M8r6 1M8r7 1M8r8 1M8r9 1M8ra 1M8rb 1M8rc 1M8rd 1M8re",
    "1M8rf 1M8rg 1M8rh 1M8ri 1M8rj 1V 1cM8rl 1V 1Mh7 1M5tp 1Mhp 1V 2M8rs 1V 1M8ru 1V 1M8rw 1V",
    "1Mgh 1Mhd 1Mgg 1Mgi 1V 1M8s3 1V 2M8s6 1V 6M2y 1M3a 1Mfz 1Mg0 1M8sh 1V 1M8sj 1V 1M8sl 1V",
    "1M8sn 1V 1M8sp 1V 1M8sr 1V 1M8st 1V 1M8sv 1V 1M8sx 1V 1M8sz 1V 1M8t1 1V 1M8t3 1V 1M8t5 1V",
    "1M8t7 1V 1M8t9 1V 1M8tb 1V 1M8td 1V 1M8tf 1V 1M8th 1V 1M8tj 1V 1M8tl 1V 1M8tn 1V 1M8tp 1V",
    "1M8tr 1V 1M8tt 1V 1M8tv 1V 1M8tx 1V 1M8tz 1V 1M8u1 1V 1M8u3 1V 1M8u5 1V 1M8u7 1V 1M8u9 1V",
    "1M8ub 1V 1M8ud 1V 1M8uf 1V 1M8uh 1V 1M8uj 1V 1M8ul 1V 1M8un 1V 1M8up 1V 1M8ur 1V 1M8ut 1V",
    "1M8uv 1V 1M8ux 1V 1M8uz 1V 1M8v1 1V 1M8v3 1V 1M8v5 1V 1M8v7 1V 8M8vg 1V 1M8vi 1V 4M8vn 1V",
    "1X 5V 19X 1V 1X 5V 1X 2V 1kX 7M8yp 1V 1X eV oX 9V 7X 1V 7X 1V 7X 1V 7X 1V 7X 1V 7X 1V 7X",
    "1V 7X 1V 3iX yV qX 1V 4Mlal 1V 2bMvj3 1X cMfeo 1Mffs 1Mfg6 1Mfgf 1Mfh5 1Mfid 1Mfik 1Mfj4",
    "1Mfju 1Mg1r 1Mg2t 1Mg2z 1Mg3m 1Mg46 1Mg4r 1Mg68 1Mg6t 1Mg74 1Mgbf 1Mge1 1Mget 1Mgey 1Mgfs",
    "1Mgg1 1Mggs 1Mgh5 1Mghu 1Mgja 1Mgjs 1Mgkj 1Mh5j 1Mh7j 1Mhkb 1Mhky 1Mhl6 1Mhlh 1Mhlz 1Mho3",
    "1Mi1c 1Mi2o 1Mi60 1Mi6n 1Mi76 1Mi7s 1Mi9a 1Mi9d 1Mijf 1Mijp 1Mik1 1Mike 1Minm 1Minu 1Minz",
    "1Mir8 1Miri 1Mirv 1Mis3 1Mits 1Miu9 1Miur 1Miwz 1Mjd4 1Mjee 1Mjez 1Mjzj 1Mjzo 1Mk1z 1Mk2f",
    "1Mk2s 1Mk3d 1Mk4g 1Mk4l 1Mkc0 1Mkco 1Mkdk 1Ml5s 1Ml7m 1Ml89 1Ml9v 1Mlaj 1Mlas 1Mlaz 1Mlcf",
    "1Mlck 1Mldg 1Mm7f 1Mmju 1Mmk6 1Mmkb 1Mmkf 1Mmkn 1Mml5 1Mml7 1Mmng 1Mmtg 1Mmtl 1Mn30 1Mn3a",
    "1Mn4o 1Mn4v 1Mn54 1Mn5c 1Mn7v 1Mn82 1Mnee 1Mnel 1Mnfy 1Mngf 1Mnhq 1Mnob 1Mnoi 1Mnoz 1Mny2",
    "1Mo1k 1Mo1q 1Mo6s 1Mo97 1Moah 1Mokz 1Mooo 1Mp4m 1Mp5d 1Mp6y 1Mp8d 1Mpa9 1Mpak 1Mpaq 1Mpbn",
    "1Mpdr 1Mpe1 1Mpnn 1Mpnu 1Mpo3 1Mpoc 1Mpos 1Mpp7 1Mppb 1Mpri 1Mprm 1Mprs 1Mqj1 1Mqjv 1Mqww",
    "1Mqx8 1Mqxv 1Mr5q 1Mr63 1Mr82 1Mr9c 1Mrp3 1Mrpi 1Mrpx 1Mrqw 1Mrrx 1Mrxg 1Mrxs 1Mrzn 1Ms6j",
    "1Ms7e 1Msd7 1Msds 1Msdx 1Msk1 1Msp5 1Mssm 1Msss 1Mssx 1Mtiv 1Mtj4 1Mtng 1Mtrq 1Mtrt 1Mtt4",
    "1Mtw1 1Mtwe 1Mtwi 1Mtwp 1Mtzf 1Mu0d 1Mu0j 1Mu0x 1Mu5k 1Mu6z 1Mu73 1Muc6 1Muc9 1Mucs 1Mujs",
    "1Mul4 1Mulb 1Mun9 1Munj 1Munm 1Munw 1Muoq 1Muzp 1Mvat 1Mvb3 1Mvc5 1Mvcr 1Mvcz 1Mvd9 1Mvdd",
    "1Mveh 1Mvel 1Mvf2 1Mvf7 1Mvfk 1Mvgb 1Mvgq 1Mvgy 1Mvil 1Mvj0 1Mvj4 1X 16Mw 1V 1M1a 1V",
    "1fM9hu 1V 1Mgg1 1Mgg4 1Mgg5 1V 5X 1V 2eX 2V 2Mw,9ll 1Mw,9lm 1V 2M9l4,9l6 1V 2nM9mb,9mw 1X",
    "5V 17X 1M3cw 1M3cx 1M3hm 1M3cy 1M3ho 1M3hp 1M3cz 1M3d0 1M3d1 1M3hs 1M3ht 1M3hu 1M3hv 1M3hw",
    "1M3hx 1M3dm 1M3d2 1M3d3 1M3d4 1M3dt 1M3d5 1M3d6 1M3d7 1M3d8 1M3d9 1M3da 1M3db 1M3dc 1M3dd",
    "1M3de 1M3fl 1M3fm 1M3fn 1M3fo 1M3fp 1M3fq 1M3fr 1M3fs 1M3ft 1M3fu 1M3fv 1M3fw 1M3fx 1M3fy",
    "1M3fz 1M3g0 1M3g1 1M3g2 1M3g3 1M3g4 1M3g5 1I 1M3dg 1M3dh 1M3if 1M3ig 1M3ik 1M3im 1M3ir",
    "1M3iv 1M3ix 1M3do 1M3j1 1M3j3 1M3dp 1M3dq 1M3ds 1M3du 1M3dv 1M3dz 1M3e1 1M3e3 1M3e4 1M3e5",
    "1M3e6 1M3e7 1M3ea 1M3ee 1M3eo 1M3ev 1M3f0 1M3jl 1M3jm 1M3fb 1M3fc 1M3fd 1M3gk 1M3gl 1M3go",
    "1M3gx 1M3gy 1M3h0 1M3ha 1M3hd 1X 1V 2Mfeo 1Mfik 1Mfex 1Mh5n 1Mfey 1Mffx 1Mfez 1Mn5e 1Mfh5",
    "1Mffd 1Mfep 1Mhm1 1Mh80 1Mfju 1V 1yX aV gM14,3cw,15 1M14,3cy,15 1M14,3cz,15 1M14,3d1,15",
    "1M14,3d2,15 1M14,3d3,15 1M14,3d5,15 1M14,3d7,15 1M14,3d8,15 1M14,3da,15 1M14,3db,15",
    "1M14,3dc,15 1M14,3dd,15 1M14,3de,15 1M14,xz4,15 1M14,yvs,15 1M14,zc4,15 1M14,108s,15",
    "1M14,10p4,15 1M14,115g,15 1M14,1224,15 1M14,12ys,15 1M14,13f4,15 1M14,14bs,15 1M14,14s4,15",
    "1M14,158g,15 1M14,15os,15 1M14,1654,15 1M14,13p8,15 1M14,1350,13ic,15 1M14,1350,16f8,15 1X",
    "1M14,feo,15 1M14,fik,15 1M14,fex,15 1M14,h5n,15 1M14,fis,15 1M14,g31,15 1M14,fer,15",
    "1M14,g2z,15 1M14,fh9,15 1M14,gg1,15 1M14,kco,15 1M14,m7f,15 1M14,ldg,15 1M14,kdk,15",
    "1M14,ssx,15 1M14,h7j,15 1M14,k4l,15 1M14,kkq,15 1M14,kcp,15 1M14,ny6,15 1M14,glp,15",
    "1M14,mm1,15 1M14,rs1,15 1M14,nz1,15 1M14,gc4,15 1M14,fkz,15 1M14,gos,15 1M14,i1y,15",
    "1M14,nhf,15 1M14,flt,15 1M14,rt3,15 1M14,ggk,15 1M14,nzh,15 1M14,fm9,15 1M14,pnu,15",
    "1M14,po3,15 1Mgun 1Minw 1Mk1z 1Moen 1V 8M34,38,2t 1M1e,1d 1M1e,1e 1M1e,1f 1M1e,1g 1M1e,1h",
    "1M1e,1i 1M1e,1j 1M1e,1k 1M1e,1l 1M1f,1c 1M1f,1d 1M1f,1e 1M1f,1f 1M1f,1g 1M1f,1h 1M3cw",
    "1M3cy 1M3cz 1M3d1 1M3d2 1M3d3 1M3d5 1M3d7 1M3d8 1M3da 1M3db 1M3dc 1M3dd 1M3de 1Mxz4 1Myvs",
    "1Mzc4 1M108s 1M10p4 1M115g 1M1224 1M12ys 1M13f4 1M14bs 1M14s4 1M158g 1M15os 1M1654",
    "1M14c8,y5c 1M13p8,13dk 1M138w 1V 1Mfeo 1Mfik 1Mfex 1Mh5n 1Mfis 1Mg31 1Mfer 1Mg2z 1Mfh9",
    "1Mgg1 1Mkco 1Mm7f 1Mldg 1Mkdk 1Mssx 1Mh7j 1Mk4l 1Mkkq 1Mkcp 1Mny6 1Mglp 1Mmm1 1Mrs1 1Mnz1",
    "1Mgc4 1Mo2g 1Mn5j 1Mho3 1Msix 1Mg16 1Mghc 1Mlig 1Mu11 1Mfm9 1Mg49 1Ml7n 1Mfey 1Mffx 1Mfez",
    "1Mijq 1Mgkz 1Mgfv 1Mi3b 1Mi1y 1Mnhf 1Mflt 1Mrt3 1Mggk 1Mhlo 1M1f,1i 1M1f,1j 1M1f,1k",
    "1M1f,1l 1M1g,1c 1M1g,1d 1M1g,1e 1M1g,1f 1M1g,1g 1M1g,1h 1M1g,1i 1M1g,1j 1M1g,1k 1M1g,1l",
    "1M1h,1c 1M1d,kco 1M1e,kco 1M1f,kco 1M1g,kco 1M1h,kco 1M1i,kco 1M1j,kco 1M1k,kco 1M1l,kco",
    "1M1d,1c,kco 1M1d,1d,kco 1M1d,1e,kco 1M2w,2v 1M2t,36,2v 1M2t,3a 1M30,38,2s 1M9lu 1M9lw",
    "1M9ly 1M9m0 1M9m2 1M9m3 1M9m5 1M9m7 1M9m9 1M9mb 1M9md 1M9mf 1M9mh 1M9mj 1M9ml 1M9mn 1M9mp",
    "1M9ms 1M9mu 1M9mw 1M9my 1M9mz 1M9n0 1M9n1 1M9n2 1M9n3 1M9n6 1M9n9 1M9nc 1M9nf 1M9ni 1M9nj",
    "1M9nk 1M9nl 1M9nm 1M9no 1M9nq 1M9ns 1M9nt 1M9nu 1M9nv 1M9nw 1M9nx 1M9nz 1M9o0 1M9o1 1M9o2",
    "1Mfl0,gp8 1M9lu,9n5,9oc,9mw 1M9lu,9nv,9n9,9lt 1M9lu,9o3,9ne,9lu 1M9lu,9oc,9nv",
    "1M9lw,9mz,9o3,9m8 1M9lw,9o3,9mp 1M9ly,9m1,9o3 1M9m0,9mh,9m7,9oc,9mx 1M9m0,9oc,9m3,9oc",
    "1M9m2,9o3,9mh 1M9m2,9oc,9nk 1M9m3,9lw,9nu 1M9m3,9nt,9mr,9mw 1M9m3,9nx,9nu,9oc",
    "1M9m4,9nx,9o3 1M9m4,9o3,9ni 1M9m6,9m4 1M9m6,9mz,9oc 1M9m5,9np,9nu,9oc 1M9m6,9nv,9mo,9oc",
    "1M9m5,9nx 1M9m5,9nx,9m8,9nt,9nk 1M9m5,9nx,9nl,9oc,9mw,9nv 1M9m5,9nx,9nz,9mr,9mw",
    "1M9m8,9nt,9nk 1M9m8,9nt,9nk,9mw,9o3 1M9m7,9nv,9mk,9lw,9nx 1M9m7,9nx,9oc,9n1 1M9m9,9oc,9mh",
    "1M9mb,9nv,9my 1M9mb,9oc,9nh 1M9md,9lw,9m7,9nv 1M9md,9o3,9mp,9oc,9nk 1M9mf,9nu,9o3,9m8",
    "1M9mj,9o3,9mp 1M9mj,9o3,9mw 1M9mo,9oc,9mh 1M9mv,9mf 1M9mx,9nv 1M9mw,9o3 1M9my,9n2",
    "1M9n2,9mr,9mw 1M9n3,9lw,9ms 1M9n5,9oc,9mj,9o3,9mw 1M9n5,9oc,9ms 1M9n4,9oc,9nw,9nv",
    "1M9n8,9lu,9mh,9mw,9nv 1M9n8,9m7,9nv 1M9n8,9mb 1M9n7,9nv 1M9n9,9lt,9nt,9mr,9mx",
    "1M9n9,9lv,9oc,9mw 1M9na,9mr,9mf,9lz,9nv 1M9n9,9nt,9o3 1M9nc,9m7,9mn,9oc,9nv 1M9ne,9ml",
    "1M9ne,9mz,9n6 1M9nc,9nv,9ms 1M9ne,9o3,9mh 1M9ne,9oc,9mg 1M9nd,9oc,9mn 1M9nh,9lw,9o3,9mw",
    "1M9ng,9nv,9mw 1M9nf,9o3 1M9nh,9o3,9mx 1M9nf,9oc,9nv 1M9nf,9oc,9o3 1M9ni,9lw,9m7,9nx",
    "1M9ni,9lw,9nv 1M9ni,9mr,9n3 1M9ni,9nv,9m7 1M9ni,9o3,9mf,9nr,9o3 1M9nj,9m7,9nx,9o3",
    "1M9nj,9nu 1M9nj,9nu,9n4,9oc,9nv 1M9nl,9m4 1M9nl,9m4,9mw,9o3 1M9nl,9oc,9mw,9nv",
    "1M9no,9oc,9mx 1M9no,9oc,9nv 1M9nq,9lu,9o3 1M9nu,9mr,9mw,9nv 1M9nu,9nt 1M9nv,9n8,9oc",
    "1M9nv,9oc,9na,9nv 1M9nw,9nk 1M9nw,9o3,9mw,9ma,9o3 1M9nz,9mr,9mw 1M1c,m9l 1M1d,m9l 1M1e,m9l",
    "1M1f,m9l 1M1g,m9l 1M1h,m9l 1M1i,m9l 1M1j,m9l 1M1k,m9l 1M1l,m9l 1M1d,1c,m9l 1M1d,1d,m9l",
    "1M1d,1e,m9l 1M1d,1f,m9l 1M1d,1g,m9l 1M1d,1h,m9l 1M1d,1i,m9l 1M1d,1j,m9l 1M1d,1k,m9l",
    "1M1d,1l,m9l 1M1e,1c,m9l 1M1e,1d,m9l 1M1e,1e,m9l 1M1e,1f,m9l 1M1e,1g,m9l 1M2w,34,2p 1M2s,2p",
    "1M2p,39 1M2q,2p,36 1M33,3a 1M34,2r 1M2s,31 1M2s,31,1e 1M2s,31,1f 1M2x,39 1Minn,jdc",
    "1Mk6l,gp8 1Mhlz,l7n 1Mk5q,lh7 1Mkkq,irz,fmi,ny6 1M34,2p 1M32,2p 1Mqk,2p 1M31,2p 1M2z,2p",
    "1M2z,2q 1M31,2q 1M2v,2q 1M2r,2p,30 1M2z,2r,2p,30 1M34,2u 1M32,2u 1Mqk,2u 1Mqk,2v 1M31,2v",
    "1M2z,2v 1M2w,3e 1M2z,2w,3e 1M31,2w,3e 1M2v,2w,3e 1M38,2w,3e 1Mqk,30 1M31,30 1M2s,30",
    "1M2z,30 1M2u,31 1M32,31 1Mqk,31 1M31,31 1M2r,31 1M2z,31 1M31,31,1e 1M2r,31,1e 1M31,1e",
    "1M2z,31,1e 1M31,31,1f 1M2r,31,1f 1M31,1f 1M2z,31,1f 1M31,6qd,37 1M31,6qd,37,1e 1M34,2p",
    "1M2z,34,2p 1M31,34,2p 1M2v,34,2p 1M36,2p,2s 1M36,2p,2s,6qd,37 1M36,2p,2s,6qd,37,1e 1M34,37",
    "1M32,37 1Mqk,37 1M31,37 1M34,3a 1M32,3a 1Mqk,3a 1M31,3a 1M2z,3a 1M31,3a 1M34,3b 1M32,3b",
    "1Mqk,3b 1M31,3b 1M2z,3b 1M31,3b 1M2z,qx 1M31,qx 1X 1M2q,35 1M2r,2r 1M2r,2s 1M2r,6qd,2z,2v",
    "1X 1M2s,2q 1M2v,3d 1M2w,2p 1M2w,34 1M2x,32 1M2z,2z 1M2z,31 1M2z,38 1M30,31 1M30,32",
    "1M30,33,2v 1M30,3c 1M31,2q 1M31,2x,30 1M31,33,30 1M34,2w 1X 1M34,34,31 1M34,36 1M37,36",
    "1M37,3a 1M3b,2q 1M3a,6qd,31 1M2p,6qd,31 1M1d,k4l 1M1e,k4l 1M1f,k4l 1M1g,k4l 1M1h,k4l",
    "1M1i,k4l 1M1j,k4l 1M1k,k4l 1M1l,k4l 1M1d,1c,k4l 1M1d,1d,k4l 1M1d,1e,k4l 1M1d,1f,k4l",
    "1M1d,1g,k4l 1M1d,1h,k4l 1M1d,1i,k4l 1M1d,1j,k4l 1M1d,1k,k4l 1M1d,1l,k4l 1M1e,1c,k4l",
    "1M1e,1d,k4l 1M1e,1e,k4l 1M1e,1f,k4l 1M1e,1g,k4l 1M1e,1h,k4l 1M1e,1i,k4l 1M1e,1j,k4l",
    "1M1e,1k,k4l 1M1e,1l,k4l 1M1f,1c,k4l 1M1f,1d,k4l 1M2v,2p,30 1V m8dX 3V 1jX 9V 9oX kMwu9 1V",
    "1Mwub 1V 1Mwud 1V 1Mwuf 1V 1Mwuh 1V 1Mwuj 1V 1Mwul 1V 1Mwun 1V 1Mwup 1V 1Mwur 1V 1Mwut 1V",
    "1Mwuv 1V 1Mwux 1V 1Mwuz 1V 1Mwv1 1V 1Mwv3 1V 1Mwv5 1V 1Mwv7 1V 1Mwv9 1V 1Mwvb 1V 1Mwvd 1V",
    "1Mwvf 1V 1Mwvh 1V jMww1 1V 1Mww3 1V 1Mww5 1V 1Mww7 1V 1Mww9 1V 1Mwwb 1V 1Mwwd 1V 1Mwwf 1V",
    "1Mwwh 1V 1Mwwj 1V 1Mwwl 1V 1Mwwn 1V 1Mwwp 1V 1Mwwr 1V 1Mui 1Muk 1V 2iX 8V yMx0j 1V 1Mx0l",
    "1V 1Mx0n 1V 1Mx0p 1V 1Mx0r 1V 1Mx0t 1V 1Mx0v 1V 3Mx0z 1V 1Mx11 1V 1Mx13 1V 1Mx15 1V 1Mx17",
    "1V 1Mx19 1V 1Mx1b 1V 1Mx1d 1V 1Mx1f 1V 1Mx1h 1V 1Mx1j 1V 1Mx1l 1V 1Mx1n 1V 1Mx1p 1V 1Mx1r",
    "1V 1Mx1t 1V 1Mx1v 1V 1Mx1x 1V 1Mx1z 1V 1Mx21 1V 1Mx23 1V 1Mx25 1V 1Mx27 1V 1Mx29 1V 1Mx2b",
    "1V 1Mx2d 1V 1Mx2f 1V 1Mx2h 1V 1Mx2j 1V 1Mx2l 1V 1Mx2n 1V 1Mx2n 1V 8Mx2y 1V 1Mx30 1V 1M5tl",
    "1Mx33 1V 1Mx35 1V 1Mx37 1V 1Mx39 1V 1Mx3b 1V 4Mx3g 1V 1Mh1 1V 2Mx3l 1V 1Mx3n 1V 3Mx3r 1V",
    "1Mx3t 1V 1Mx3v 1V 1Mx3x 1V 1Mx3z 1V 1Mx41 1V 1Mx43 1V 1Mx45 1V 1Mx47 1V 1Mx49 1V 1Mh2 1Mgs",
    "1Mgx 1Mh8 1Mh6 1V 1Mim 1Mhz 1Mil 1Mxub 1Mx4l 1V 1Mx4n 1V 1Mx4p 1V 1Mx4r 1V 1Mx4t 1V 1Mx4v",
    "1V 1Mx4x 1V 1Mx4z 1V 1Mx3o 1Mhu 1M5u6 1Mx54 1V 1Mx56 1V 1Mh0 1Mx59 1V 1Mx5b 1V 1Mx5d 1V",
    "1Mx5f 1V 1Mx5h 1V 1Mx5j 1V 1Mx5l 1V 1Mx5n 1V 1Mbf 1X kM37 1M2r 1M2u 1M35 1Mx6e 1V 2M87",
    "1M9f 1V 1fX 3V aX 6V 1kX 8V 1yX 8V cX 6V 38X bV uX 3V 26X 1V bX 4V xX 1V 1jX 9V eX 2V aX",
    "2V 2vX oV sX aV 6X 2V 6X 2V 6X 9V 7X 1V 7X 1V 18Mx0n 1Mxtj 1Mh7 1Mxua 1V 9Mi5 1V 2X 4M3vk",
    "1M3vl 1M3vm 1M3vn 1M3vo 1M3vp 1M3vq 1M3vr 1M3vs 1M3vt 1M3vu 1M3vv 1M3vw 1M3vx 1M3vy 1M3vz",
    "1M3w0 1M3w1 1M3w2 1M3w3 1M3w4 1M3w5 1M3w6 1M3w7 1M3w8 1M3w9 1M3wa 1M3wb 1M3wc 1M3wd 1M3we",
    "1M3wf 1M3wg 1M3wh 1M3wi 1M3wj 1M3wk 1M3wl 1M3wm 1M3wn 1M3wo 1M3wp 1M3wq 1M3wr 1M3ws 1M3wt",
    "1M3wu 1M3wv 1M3ww 1M3wx 1M3wy 1M3wz 1M3x0 1M3x1 1M3x2 1M3x3 1M3x4 1M3x5 1M3x6 1M3x7 1M3x8",
    "1M3x9 1M3xa 1M3xb 1M3xc 1M3xd 1M3xe 1M3xf 1M3xg 1M3xh 1M3xi 1M3xj 1M3xk 1M3xl 1M3xm 1M3xn",
    "1M3xo 1M3xp 1M3xq 1M3xr 1V 1aX 2V aX 6V 8mcX cV nX 4V 1dX 6isMrpk 1Mkc4 1Ms7e 1Mrt4 1Mlw1",
    "1Mfg2 1Mgkl 1Mvj0 2Mhn5 1Mssx 1Mgw7 1Mhmw 1Mjcm 1Mne1 1Mp6t 1Mqin 1Mqt6 1Mr20 1Msjz 1Mkxu",
    "1Mljv 1Mmah 1Mmvy 1Mq4d 1Msq2 1Muep 1Mfia 1Mghh 1Ml50 1Mmjf 1Mqi5 1Mv8e 1Mifk 1Mm3v 1Mqfh",
    "1Mr50 1Mjih 1Mpnc 1Mqvz 1Miq2 1Mkd3 1Mlm2 1Mmpo 1Mslq 1Mfpi 1Mg53 1Mgda 1Mjwk 1Ml3n 1Mmj4",
    "1Mnhj 1Mpa9 1Mqh2 1Mqjg 1Ms1b 1Mtv6 1Mupb 1Mv7e 1Mnt8 1Mnzz 1Motc 1Mq15 1Mt1g 1Mvb3 1Mrfa",
    "1Mhjz 1Miro 1Mokg 1Mpdq 1Mmle 1Mnuy 1Mrsy 1Mttj 1Mhjs 1Mi8y 1Mkyb 1Mlp6 1Mlxr 1Moq7 1Moxj",
    "1Mtor 1Mgcy 1Mpe3 1Mg64 1Mg5o 1Mo4c 1Mou6 1Mq29 1Mtpx 1Mrk0 1Mjin 1Mkxu 1Mrge 1Mfg9 1Mi5j",
    "1Miz6 1Mmtj 1Mn74 1Mgev 1Mnwb 1Mfr3 1Miw9 1Mff1 1Mlho 1Mk1k 1Mopu 1Mgjn 1Mhge 1Mni9 1Mq4p",
    "1Mre2 1Mla2 1Msds 1Mlfs 1Mjjy 1Mput 1Mjog 1Mn6t 1Mfji 1Mg2x 1Mg5l 1Mkn5 1Moo7 1Mprj 1Mrf6",
    "1Mssv 1Mgdx 1Mgn6 1Mho3 1Mir0 1Mk3p 1Mm4e 1Mnxm 1Mtkd 1Mui2 1Mvbr 1Mvda 1Mgbf 1Mkau 1Ml87",
    "1Msbm 1Mino 1Mj9s 1Mjcw 1Mjve 1Mlyb 1Mmdl 1Mn0p 1Mo22 1Movo 1Mpdb 1Ms9y 1Mq9a 1Msgz 1Mt3e",
    "1Mg7r 1Mgbn 1Mgql 1Mma0 1Mr0i 1Mre2 1Miq1 1Miyd 1Mjnf 1Ml9q 1Moji 1Mmt1 1Mfl0 1Mh6h 1Mi5j",
    "1Miii 1Mizg 1Mmuq 1Mmzt 1Mp7e 1Mpc6 1Msvo 1Mtti 1Mtvs 1Mu1k 1Mfpn 1Mo1a 1Mss4 1Mtrs 1Mj4x",
    "1Mfie 1Mfyy 1Mi5q 1Mi7z 1Mk2h 1Mkxu 1Mmha 1Mncy 1Mq9o 1Msjg 1Mvil 1Mk94 1Mtny 1Mgax 1Mkfv",
    "1Mkj7 1Mlkx 1Mluk 1Mmx5 1Mn6h 1Mnsb 1Mopc 1Mu3i 1Mg31 1Mje6 1Mtq0 1Mfu3 1Mie1 1Mlpm 1Msa2",
    "1Mivf 1Mj7o 1Mkk7 1Mmtj 1Mtqe 1Mg89 1Mglr 1Mi91 1Mk5v 1Mkem 1Mko8 1Mlid 1Mmx2 1Mnaa 1Mp6h",
    "1Mr0v 1Mr1d 1Msss 1Mtsy 1Mgfz 1Mlve 1Mgm5 1Mmhc 1Mn14 1Mqgq 1Mtr7 1Muvr 1Mvbz 1Mkgn 1Mlor",
    "1Mpns 1Mo97 1Mobk 1Molu 1Mmo0 1Mm8p 1Mriw 1Mfk0 1Mpx2 1Mg8q 1Mg7b 1Mip2 1Mjir 1Monq 1Mi2t",
    "1Mljy 1Mkac 1Msaj 1Mqx8 1Mtot 1Mr63 1Miqb 1Mg1s 1Mgxs 1V 2Mhga 1V 1Mk8k 1V 2Mg66 1Mmqy",
    "1Mngq 1Mny4 1Mnz2 1Mnz9 1Mo0f 1Mtw6 1Mon2 1Mp8d 1V 1Mqhe 1V 1Mrg8 1V 2Mshk 1Msn1 1V 3Mu7j",
    "1Mu7w 1Mu94 1Mv5g 1Msm6 1Mtrr 1Mfqm 1Mfzb 1Mg25 1Mgcp 1Mgdg 1Mggh 1Mgwt 1Mgzq 1Mh2g 1Mhfk",
    "1Mhig 1Mi90 1Mi9a 1Mj2s 1Mj8o 1Mj9q 1Mjci 1Mk0f 1Mk4i 1Mk9d 1Mkn9 1Mlmf 1Mlqy 1Mlya 1Mmem",
    "1Mmjv 1Mmxu 1Mntd 1Mny6 1Mnyh 1Mnyg 1Mnyo 1Mnyu 1Mnz1 1Mo0d 1Mo0e 1Mo5c 1Mo75 1Mog0 1Movo",
    "1Mow9 1Moxt 1Mp6a 1Mpad 1Mpnx 1Mprt 2Mq53 1Mr2o 1Mr6e 1Mrgh 1Mri1 1Mrtf 1Mruw 1Msdy 1Mshk",
    "1Mtsz 1Mu0v 1Mu2j 1Mj1x 1M36cu 1Mpp4 1X 2Mffq 1Mg51 1Mg2w 1Mfpc 1Mg1x 1Mg3k 1Mgcn 1Mge2",
    "1Mgwt 1Mgut 1Mgwp 1Mgyq 1Mhga 1Mhir 1Mhms 1Mhn8 1Mhuq 1Mi08 1Miqa 1Miqh 1Miuh 1Miwd 1Mj4o",
    "1Mj7y 1Mj60 1Mj9q 1Mj8g 1Mjci 1Mjec 1Mjpg 1Mjrw 1Mjte 1Mk0m 1Mk8k 1Mkd3 1Mkd7 1Mkeu 1Ml89",
    "1Mla2 1Mlkx 1Mlwb 1Mlvv 1Mlya 1Mm5a 1Mmem 1Mnmv 1Mmk5 1Mmnj 1Mmqy 1Mn01 1Mn46 1Mn5n 1Mnbx",
    "1Mnbz 1Mngq 1Mnh7 1Mnhw 1Mnka 1Mnk0 1Mnv0 1Mo8h 1Mog0 1Mol7 1Morf 1Movo 1Mp4u 1Mpad 1Mpxu",
    "1Mq27 1Mqrd 1Mr41 1Mr5y 1Mr6e 1Mren 1Mrg8 1Mrez 1Mrgh 1Mrge 1Mrfx 1Mri1 1Mrka 1Mruw 1Msag",
    "1Msj6 1Msrd 1Msxi 1Mtq4 1Mtsz 1Mtw6 1Mtzv 1Mu0v 1Mu17 1Mu2j 1Mumq 1Mvj0 1M313e 1M3138",
    "1M33dh 1Mbrx 1Mcns 1Mcop 1M39e1 1M3bgw 1M3i6r 1Mvgj 1Mvim 1X 12M2u,2u 1M2u,2x 1M2u,30",
    "1M2u,2u,2x 1M2u,2u,30 1M37,38 2X cM12s,12u 1M12s,12d 1M12s,12j 1M132,12u 1M12s,12l 1X",
    "5M15l,14k 1V 1M16a,14n 1M15u 1M15c 1M15f 1M15g 1M15n 1M15o 1M15p 1M160 1M162 1M17",
    "1M161,14x 1M161,14y 1M161,14s,14x 1M161,14s,14y 1M15c,14n 1M15c,14o 1M15c,14s 1M15d,14s",
    "1M15e,14s 1M15f,14s 1M15g,14s 1M15h,14s 1M15i,14s 1X 1M15k,14s 1M15l,14s 1M15m,14s",
    "1M15n,14s 1M15o,14s 1X 1M15q,14s 1X 1M15s,14s 1M15t,14s 1X 1M15v,14s 1M15w,14s 1X",
    "1M15y,14s 1M15z,14s 1M160,14s 1M161,14s 1M162,14s 1M15h,14p 1M15d,14v 1M15n,14v 1M15w,14v",
    "1M15c,15o 1M19t 2M1a3 4M1a6 4M1a8 4M1a2 4M1a7 4M1a1 4M1b8 4M1ba 4M1ac 4M1ab 4M1ae 4M1af",
    "4M1al 2M1ak 2M1am 2M1ag 2M1aw 2M1ap 2M1bd 4M1bj 4M1bn 4M1bl 4M1bu 2M1bv 4M1c0 2M1c1 4M1by",
    "4M1ci 2M1cj 2V xM1bh 4M1c7 2M1c6 2M1c8 2M1c7,19w 1M1cb 2M1c5 2M1c9 2M1cg 4M18p 2M17q,17r",
    "2M17q,1cl 2M17q,18o 2M17q,1c7 2M17q,1c6 2M17q,1c8 2M17q,1cg 3M17q,18p 3M1cc 4M17q,17w",
    "1M17q,17x 1M17q,18l 1M17q,18p 1M17q,18q 1M17s,17w 1M17s,17x 1M17s,17y 1M17s,18l 1M17s,18p",
    "1M17s,18q 1M17u,17w 1M17u,17x 1M17u,17y 1M17u,18l 1M17u,18p 1M17u,18q 1M17v,17w 1M17v,18l",
    "1M17v,18p 1M17v,18q 1M17w,17x 1M17w,18l 1M17x,17w 1M17x,18l 1M17y,17w 1M17y,17x 1M17y,18l",
    "1M183,17w 1M183,17x 1M183,17y 1M183,18l 1M185,17x 1M185,18l 1M186,17w 1M186,17x 1M186,17y",
    "1M186,18l 1M187,17x 1M187,18l 1M188,18l 1M189,17w 1M189,18l 1M18a,17w 1M18a,18l 1M18h,17w",
    "1M18h,17x 1M18h,17y 1M18h,18l 1M18h,18p 1M18h,18q 1M18i,17x 1M18i,18l 1M18i,18p 1M18i,18q",
    "1M18j,17r 1M18j,17w 1M18j,17x 1M18j,17y 1M18j,18k 1M18j,18l 1M18j,18p 1M18j,18q 1M18k,17w",
    "1M18k,17x 1M18k,17y 1M18k,18l 1M18k,18p 1M18k,18q 1M18l,17w 1M18l,17x 1M18l,17y 1M18l,18l",
    "1M18l,18p 1M18l,18q 1M18m,17w 1M18m,17x 1M18m,17y 1M18m,18l 1M18m,18p 1M18m,18q 1M18n,17w",
    "1M18n,18l 1M18n,18p 1M18n,18q 1M18q,17w 1M18q,17x 1M18q,17y 1M18q,18l 1M18q,18p 1M18q,18q",
    "1M180,19s 1M181,19s 1M18p,19s 1Mw,18s,18x 1Mw,18t,18x 1Mw,18u,18x 1Mw,18v,18x 1Mw,18w,18x",
    "1Mw,18x,19s 1M17q,181 1M17q,182 1M17q,18l 1M17q,18m 1M17q,18p 1M17q,18q 1M17s,181",
    "1M17s,182 1M17s,18l 1M17s,18m 1M17s,18p 1M17s,18q 1M17u,181 1M17u,182 1M17u,18l 1M17u,18m",
    "1M17u,18p 1M17u,18q 1M17v,181 1M17v,182 1M17v,18l 1M17v,18m 1M17v,18p 1M17v,18q 1M18h,18p",
    "1M18h,18q 1M18i,18p 1M18i,18q 1M18j,17r 1M18j,18k 1M18j,18l 1M18j,18p 1M18j,18q 1M18k,18l",
    "1M18k,18p 1M18k,18q 1M18l,17r 1M18l,18l 1M18m,181 1M18m,182 1M18m,18l 1M18m,18m 1M18m,18p",
    "1M18m,18q 1M18p,19s 1M18q,181 1M18q,182 1M18q,18l 1M18q,18m 1M18q,18p 1M18q,18q 1M17q,17w",
    "1M17q,17x 1M17q,17y 1M17q,18l 1M17q,18n 1M17s,17w 1M17s,17x 1M17s,17y 1M17s,18l 1M17s,18n",
    "1M17u,17w 1M17u,17x 1M17u,17y 1M17u,18l 1M17u,18n 1M17v,18l 1M17w,17x 1M17w,18l 1M17x,17w",
    "1M17x,18l 1M17y,17w 1M17y,18l 1M183,17w 1M183,17x 1M183,17y 1M183,18l 1M185,17x 1M185,17y",
    "1M185,18l 1M186,17w 1M186,17x 1M186,17y 1M186,18l 1M187,17x 1M188,18l 1M189,17w 1M189,18l",
    "1M18a,17w 1M18a,18l 1M18h,17w 1M18h,17x 1M18h,17y 1M18h,18l 1M18i,17x 1M18i,18l 1M18j,17w",
    "1M18j,17x 1M18j,17y 1M18j,18k 1M18j,18l 1M18k,17w 1M18k,17x 1M18k,17y 1M18k,18l 1M18k,18n",
    "1M18l,17w 1M18l,17x 1M18l,17y 1M18l,18l 1M18m,17w 1M18m,17x 1M18m,17y 1M18m,18l 1M18m,18n",
    "1M18n,17w 1M18n,18l 1M18n,19s 1M18q,17w 1M18q,17x 1M18q,17y 1M18q,18l 1M18q,18n 1M17q,18l",
    "1M17q,18n 1M17s,18l 1M17s,18n 1M17u,18l 1M17u,18n 1M17v,18l 1M17v,18n 1M183,18l 1M183,18n",
    "1M184,18l 1M184,18n 1M18j,18k 1M18j,18l 1M18k,18l 1M18m,18l 1M18m,18n 1M18q,18l 1M18q,18n",
    "1M18g,18u,18x 1M18g,18v,18x 1M18g,18w,18x 1M187,18p 1M187,18q 1M189,18p 1M189,18q",
    "1M18a,18p 1M18a,18q 1M183,18p 1M183,18q 1M184,18p 1M184,18q 1M17x,18p 1M17x,18q 1M17w,18p",
    "1M17w,18q 1M17y,18p 1M17y,18q 1M185,18p 1M185,18q 1M186,18p 1M186,18q 1M184,17w 1M184,17x",
    "1M184,17y 1M184,18l 1M184,181 1M183,181 1M185,181 1M186,181 1M187,18p 1M187,18q 1M189,18p",
    "1M189,18q 1M18a,18p 1M18a,18q 1M183,18p 1M183,18q 1M184,18p 1M184,18q 1M17x,18p 1M17x,18q",
    "1M17w,18p 1M17w,18q 1M17y,18p 1M17y,18q 1M185,18p 1M185,18q 1M186,18p 1M186,18q 1M184,17w",
    "1M184,17x 1M184,17y 1M184,18l 1M184,181 1M183,181 1M185,181 1M186,181 1M184,17w 1M184,17x",
    "1M184,17y 1M184,18l 1M183,18n 1M184,18n 1M187,18l 1M183,17w 1M183,17x 1M183,17y 1M184,17w",
    "1M184,17x 1M184,17y 1M187,18l 1M188,18l 1M17r,18r 2V iM17u,17w,18l 1M17u,17x,17w",
    "2M17u,17x,18l 1M17u,17y,18l 1M17u,18l,17w 1M17u,18l,17x 1M17u,18l,17y 1M17w,18l,17x",
    "2M17x,18l,18q 1M17x,18l,18p 1M183,17x,17w 1M183,17w,17x 1M183,17w,18p 1M183,18l,17x",
    "2M183,18l,17w 1M183,18l,18l 2M185,17x,17x 2M185,18l,18l 1M184,17x,18l 2M184,17w,18q",
    "1M184,18l,17y 2M184,18l,18l 2M186,17x,18p 1M186,17y,18l 2M187,18l,17x 2M187,18l,18l",
    "1M187,18l,18q 1M189,17w,18l 1M189,18l,18l 2M189,18l,18p 1M18a,18l,18l 1M18a,18l,18q",
    "1M18a,18l,18p 1M18h,17y,18l 2M18i,18l,17x 1M18i,18l,18l 1M18k,17x,18l 1M18k,17x,18q",
    "1M18k,17x,18p 1M18k,17w,17w 2M18k,17y,18l 2M18k,18l,17x 2M18l,17x,17w 1M18l,17x,18l",
    "1M18l,17x,18q 1M18l,17w,17x 1M18l,17w,18l 1M18l,17y,17w 1M18l,17y,18l 1V 2M18l,17w,17y",
    "1M18n,18l,17w 1M18n,18l,18l 1M18m,17x,18l 1M18m,17x,18p 1M18m,17w,18l 2M18m,17w,18p",
    "1M18m,18l,18q 1M18m,18l,18p 1M18q,18l,18l 2M17s,17y,18q 1M17u,17w,18q 1M17u,17w,18p",
    "1M17u,17y,18q 1M17u,17y,18p 1M17u,18l,18q 1M17u,18l,18p 1M17w,18l,18q 1M17w,17x,18p",
    "1M17w,18l,18p 1M183,17y,18p 1M185,17x,18q 1M184,17x,18q 1M186,17x,18q 1M18k,17w,18q",
    "1M18k,18l,18q 1M18q,17x,18q 1M18q,17w,18q 1M18q,18l,18q 1M18l,18l,18q 1M18i,18l,18q",
    "1M18m,17x,18q 1M18i,18l,17x 1M18k,17x,18l 1M189,18l,18q 1M18j,18l,18q 1M18m,17w,17x",
    "1M18l,17y,18q 1M18k,17w,18l 1M18j,18l,18l 1M18k,17w,18l 1M18m,17w,17x 1M17w,17x,18q",
    "1M17x,17w,18q 1M18l,17w,18q 1M18h,18l,18q 1M17s,17x,18q 1M18j,18l,18l 1M189,17w,18l",
    "1M185,18l,18l 1M183,17y,18q 1M18m,17w,18q 1V 8X wM185,18k,1ci 1M18i,18k,1ci",
    "1M17r,18k,18k,18n 1M17r,18j,17s,181 1M18l,17x,18l,17z 1M185,18k,189,18l 1M181,183,18o,18k",
    "1M189,18k,18q,18n 1M18o,183,18k,18l 1M185,18k,18p",
    "1M185,18k,18p,w,17r,18k,18k,18n,w,189,18k,18q,18n,w,18o,183,18k,18l",
    "1M17w,18k,w,17w,18k,17r,18k,18n 1M181,1cc,17r,18k 1V 3I gM18 1M9hd 1X 1M1m 1M1n 1Mx 1M1r",
    "1M9hy 1M9hz 1X 7V gX 1M6c4 1M6c3 1M2n 2M14 1M15 1M3f 1M3h 1M9hw 1M9hx 1M9hs 1M9ht 1M9hm",
    "1M9hn 1M9hk 1M9hl 1M9ho 1M9hp 1M9hq 1M9hr 1V 2M2j 1M2l 1Mw,lh 4M2n 3M18 1M9hd 1X 2M1n 1M1m",
    "1M1r 1Mx 1M6c4 1M14 1M15 1M3f 1M3h 1M9hw 1M9hx 1Mz 1M12 1M16 1M17 1M19 1M1o 1M1q 1M1p 1X",
    "1M2k 1M10 1M11 1M1s 1X 4Mw,18r 1M18g,18r 1Mw,18s 1V 1Mw,18t 1X 1Mw,18u 1M18g,18u 1Mw,18v",
    "1M18g,18v 1Mw,18w 1M18g,18w 1Mw,18x 1M18g,18x 1Mw,18y 1M18g,18y 1M17l 1M17m 2M17n 2M17o",
    "2M17p 2M17q 4M17r 2M17s 4M17t 2M17u 4M17v 4M17w 4M17x 4M17y 4M17z 2M180 2M181 2M182 2M183",
    "4M184 4M185 4M186 4M187 4M188 4M189 4M18a 4M18h 4M18i 4M18j 4M18k 4M18l 4M18m 4M18n 4M18o",
    "2M18p 2M18q 4M18k,17m 2M18k,17n 2M18k,17p 2M18k,17r 2X 2I 1X 1Mx 1My 1Mz 1M10 1M11 1M12",
    "1M13 1M14 1M15 1M16 1M17 1M18 1M19 1M1a 1M1b 1M1c 1M1d 1M1e 1M1f 1M1g 1M1h 1M1i 1M1j 1M1k",
    "1M1l 1M1m 1M1n 1M1o 1M1p 1M1q 1M1r 1M1s 1M2p 1M2q 1M2r 1M2s 1M2t 1M2u 1M2v 1M2w 1M2x 1M2y",
    "1M2z 1M30 1M31 1M32 1M33 1M34 1M35 1M36 1M37 1M38 1M39 1M3a 1M3b 1M3c 1M3d 1M3e 1M2j 1M2k",
    "1M2l 1M2m 1M2n 1M2o 1M2p 1M2q 1M2r 1M2s 1M2t 1M2u 1M2v 1M2w 1M2x 1M2y 1M2z 1M30 1M31 1M32",
    "1M33 1M34 1M35 1M36 1M37 1M38 1M39 1M3a 1M3b 1M3c 1M3d 1M3e 1M3f 1M3g 1M3h 1M3i 1M879",
    "1M87a 1M1a 1M9ho 1M9hp 1M9hd 1M9ob 1M9o2 1M9lt 1M9lv 1M9lx 1M9lz 1M9m1 1M9nn 1M9np 1M9nr",
    "1M9mr 1M9oc 1M9lu 1M9lw 1M9ly 1M9m0 1M9m2 1M9m3 1M9m5 1M9m7 1M9m9 1M9mb 1M9md 1M9mf 1M9mh",
    "1M9mj 1M9ml 1M9mn 1M9mp 1M9ms 1M9mu 1M9mw 1M9my 1M9mz 1M9n0 1M9n1 1M9n2 1M9n3 1M9n6 1M9n9",
    "1M9nc 1M9nf 1M9ni 1M9nj 1M9nk 1M9nl 1M9nm 1M9no 1M9nq 1M9ns 1M9nt 1M9nu 1M9nv 1M9nw 1M9nx",
    "1M9nz 1M9o3 1M9ll 1M9lm 1I 1M3cw 1M3cx 1M3hm 1M3cy 1M3ho 1M3hp 1M3cz 1M3d0 1M3d1 1M3hs",
    "1M3ht 1M3hu 1M3hv 1M3hw 1M3hx 1M3dm 1M3d2 1M3d3 1M3d4 1M3dt 1M3d5 1M3d6 1M3d7 1M3d8 1M3d9",
    "1M3da 1M3db 1M3dc 1M3dd 1M3de 1X 3M3fl 1M3fm 1M3fn 1M3fo 1M3fp 1M3fq 1X 2M3fr 1M3fs 1M3ft",
    "1M3fu 1M3fv 1M3fw 1X 2M3fx 1M3fy 1M3fz 1M3g0 1M3g1 1M3g2 1X 2M3g3 1M3g4 1M3g5 1X 3M4i 1M4j",
    "1M4s 1Mw,lg 1M4m 1M4l 1M6g9 1X 1M7b6 1M6mo 1M6mp 1M6mq 1M6mr 1M7fk 1M7gr 1X hV cX 1V qX 1V",
    "jX 1V 2X 1V fX 2V eX yV 3fX 5V 3X 4V 19X 3V 2gX 1V dX 3V 1X 1bV 1aX 3mV tX 3V 1dX fV sX 4V",
    "10X 9V uX 5V 17X 5V uX 1V 11X 4V eX 16M1fe0 1M1fe1 1M1fe2 1M1fe3 1M1fe4 1M1fe5 1M1fe6",
    "1M1fe7 1M1fe8 1M1fe9 1M1fea 1M1feb 1M1fec 1M1fed 1M1fee 1M1fef 1M1feg 1M1feh 1M1fei 1M1fej",
    "1M1fek 1M1fel 1M1fem 1M1fen 1M1feo 1M1fep 1M1feq 1M1fer 1M1fes 1M1fet 1M1feu 1M1fev 1M1few",
    "1M1fex 1M1fey 1M1fez 1M1ff0 1M1ff1 1M1ff2 1M1ff3 1V 3aX 2V aX 6M1fiw 1M1fix 1M1fiy 1M1fiz",
    "1M1fj0 1M1fj1 1M1fj2 1M1fj3 1M1fj4 1M1fj5 1M1fj6 1M1fj7 1M1fj8 1M1fj9 1M1fja 1M1fjb 1M1fjc",
    "1M1fjd 1M1fje 1M1fjf 1M1fjg 1M1fjh 1M1fji 1M1fjj 1M1fjk 1M1fjl 1M1fjm 1M1fjn 1M1fjo 1M1fjp",
    "1M1fjq 1M1fjr 1M1fjs 1M1fjt 1M1fju 1M1fjv 1X 4V 10X 4V 14X 8V 1gX bV 1M1fo7 1M1fo8 1M1fo9",
    "1M1foa 1M1fob 1M1foc 1M1fod 1M1foe 1M1fof 1M1fog 1M1foh 1X 1M1foj 1M1fok 1M1fol 1M1fom",
    "1M1fon 1M1foo 1M1fop 1M1foq 1M1for 1M1fos 1M1fot 1M1fou 1M1fov 1M1fow 1M1fox 1X 1M1foz",
    "1M1fp0 1M1fp1 1M1fp2 1M1fp3 1M1fp4 1M1fp5 1X 1M1fp7 1M1fp8 1X 1V bX 1V fX 1V 7X 1V 2X 3V",
    "1gX cV 8nX 9V mX aV 8X oV 1Mk0 1Mk1 1M6e 1Mih 1Mgj 1X 1Mir 1Mxuu 1Mit 1Mis 1Mgm 1Mgn 1M5u9",
    "1Mgo 1Mgu 1Mix 1Mh0 1Mgy 1Mgw 1Mij 1M87 1Mik 1Mh3 1Mhw 1Miy 1Miz 1Mh8 1M2mmc 1Mx3i 1Mha",
    "1M2mmd 1Mi6 1M2mme 1M6w 1Mhi 1Mhj 1M35 1Mhm 1M2mmg 1Mhp 1Mhq 1Mhs 1Miw 1Miu 1Mxuv 1Miv",
    "1Mi0 1M8s1 1X 1Mi7 1Mip 1Miq 1Mig 1Mcg 1Mch 1Mci 1M2mmi 1M2mn2 1X 1xV 6X 2V 1X 1V 18X 1V",
    "2X 3V 1X 2V nX 1V 20X 8V 9X 1cV jX 1V 2X 5V xX 3V rX 5V rX 12V 1kX 4V kX 2V 1eX 1V 2X 5V",
    "8X 1V 3X 1V tX 2V 3X 4V aX 7V 9X 7V 1sX wV 13X 4V cX 9V 1iX 3V tX 2V rX 5V qX 7V 4X cV 7X",
    "28V 21X 1jM1h34 1M1h35 1M1h36 1M1h37 1M1h38 1M1h39 1M1h3a 1M1h3b 1M1h3c 1M1h3d 1M1h3e",
    "1M1h3f 1M1h3g 1M1h3h 1M1h3i 1M1h3j 1M1h3k 1M1h3l 1M1h3m 1M1h3n 1M1h3o 1M1h3p 1M1h3q 1M1h3r",
    "1M1h3s 1M1h3t 1M1h3u 1M1h3v 1M1h3w 1M1h3x 1M1h3y 1M1h3z 1M1h40 1M1h41 1M1h42 1M1h43 1M1h44",
    "1M1h45 1M1h46 1M1h47 1M1h48 1M1h49 1M1h4a 1M1h4b 1M1h4c 1M1h4d 1M1h4e 1M1h4f 1M1h4g 1M1h4h",
    "1M1h4i 1X dV 1fX 7V 1aX 8V aX 6V gM1h80 1M1h81 1M1h82 1M1h83 1M1h84 1M1h85 1M1h86 1M1h87",
    "1M1h88 1M1h89 1M1h8a 1M1h8b 1M1h8c 1M1h8d 1M1h8e 1M1h8f 1M1h8g 1M1h8h 1M1h8i 1M1h8j 1M1h8k",
    "1M1h8l 1X 3V tX 8V 2X 5sV vX 1V 16X 1V 3X 2V 2X gV 6X 8V 9X xV 1aX 8V 16X mV qX 12V sX kV",
    "nX 9V 26X 4V 10X 9V 1qX 1V 5X dV pX 7V aX 6V 1hX 1V iX 8V 13X 9V 2oX 1V kX bV iX 1V 1bX",
    "1qV 7X 1V 1X 1V 4X 1V fX 1V bX 6V 1nX 5V aX 6V 4X 1V 8X 2V 2X 2V mX 1V 7X 1V 2X 1V 5X 1V",
    "aX 2V 2X 2V 3X 2V 1X 6V 1X 5V 7X 2V 7X 3V 5X bV aX 1V 1X 2V 1X 1V 12X 1V aX 1V 1X 2V 1X 1V",
    "4X 1V aX 1V 2X 8V 2X tV 2kX 1V 5X uV 20X 8V aX 4mV 1iX 2V 12X yV 1xX bV aX 6V dX jV 1mX 6V",
    "aX 6V kX sV rX 2V fX 4V nX 55V 1oX 2sM1jgg 1M1jgh 1M1jgi 1M1jgj 1M1jgk 1M1jgl 1M1jgm",
    "1M1jgn 1M1jgo 1M1jgp 1M1jgq 1M1jgr 1M1jgs 1M1jgt 1M1jgu 1M1jgv 1M1jgw 1M1jgx 1M1jgy 1M1jgz",
    "1M1jh0 1M1jh1 1M1jh2 1M1jh3 1M1jh4 1M1jh5 1M1jh6 1M1jh7 1M1jh8 1M1jh9 1M1jha 1M1jhb 1V 1fX",
    "cV 8X 2V 1X 2V 8X 1V 2X 1V uX 1V 2X 2V cX 9V aX 1yV 8X 2V 1aX 2V bX rV 20X 8V 2bX dV 21X",
    "7V aX 2eV 8X 2gV yX eV aX 6V 9X 1V 19X 1V eX aV tX 3V wX 2V mX 1V eX 21V 7X 1V 2X 1V 18X",
    "3V 1X 1V 2X 1V 9X 8V aX 6V 6X 1V 2X 1V 11X 1V 2X 1V 6X 7V aX 6V 18X 4V aX 6uV pX 7V hX 1V",
    "15X 3V tX 2dV 1X fV 1eX dV pnX 2uV 33X 1V 5X bV 5gX 218V 2rX dV tsX gV mX aV 32zX 5V g7X",
    "5a1V 1mX 1c6V ftX 7V vX 1V aX 4V 29X 1V aX 6V uX 2V 6X aV 1yX aV aX 1V 7X 1V lX 5V jX c0V",
    "1mX 5iM20dc 1M20dd 1M20de 1M20df 1M20dg 1M20dh 1M20di 1M20dj 1M20dk 1M20dl 1M20dm 1M20dn",
    "1M20do 1M20dp 1M20dq 1M20dr 1M20ds 1M20dt 1M20du 1M20dv 1M20dw 1M20dx 1M20dy 1M20dz 1M20e0",
    "1M20e1 1M20e2 1M20e3 1M20e4 1M20e5 1M20e6 1M20e7 1V 1nX 5M20fv 1M20fw 1M20fx 1M20fy 1M20fz",
    "1M20g0 1M20g1 1M20g2 1M20g3 1M20g4 1M20g5 1M20g6 1M20g7 1M20g8 1M20g9 1M20ga 1M20gb 1M20gc",
    "1M20gd 1M20ge 1M20gf 1M20gg 1M20gh 1M20gi 1M20gj 1X 2V pX 18V 23X 4V 1lX 7V hX 1sV 5X bV",
    "7X 9V 5p2X 15V wX 2pV 37X 6ppV 4X 1V 7X 1V 2X 1V 83X fV 1X tV 3X 2V 1X eV 4X 8V b0X 1s4V",
    "2zX 5V dX 3V 9X 7V aX 2V 4I 4X 318V 5yM2p 1M2q 1M2r 1M2s 1M2t 1M2u 1M2v 1M2w 1M2x 1M2y",
    "1M2z 1M30 1M31 1M32 1M33 1M34 1M35 1M36 1M37 1M38 1M39 1M3a 1M3b 1M3c 1M3d 1M3e 1M1c 1M1d",
    "1M1e 1M1f 1M1g 1M1h 1M1i 1M1j 1M1k 1M1l 1V 3X 3V c4X 6V nX fV hX fV 1aX 2V nX 9V 38X 1oV",
    "6uX aV 13X 2V 1hM2jx3,2jxh 1M2jx4,2jxh 1M2jx4,2jxh,2jxq 1M2jx4,2jxh,2jxr 1M2jx4,2jxh,2jxs",
    "1M2jx4,2jxh,2jxt 1M2jx4,2jxh,2jxu 1V eI 8V 1sM2jzt,2jxh 1M2jzu,2jxh 1M2jzt,2jxh,2jxq",
    "1M2jzu,2jxh,2jxq 1M2jzt,2jxh,2jxr 1M2jzu,2jxh,2jxr 1V 16X lV 1yX 3eV kX cV kX cV 2fX 9V pX",
    "3rM2p 1M2q 1M2r 1M2s 1M2t 1M2u 1M2v 1M2w 1M2x 1M2y 1M2z 1M30 1M31 1M32 1M33 1M34 1M35 1M36",
    "1M37 1M38 1M39 1M3a 1M3b 1M3c 1M3d 1M3e 1M2p 1M2q 1M2r 1M2s 1M2t 1M2u 1M2v 1M2w 1M2x 1M2y",
    "1M2z 1M30 1M31 1M32 1M33 1M34 1M35 1M36 1M37 1M38 1M39 1M3a 1M3b 1M3c 1M3d 1M3e 1M2p 1M2q",
    "1M2r 1M2s 1M2t 1M2u 1M2v 1M2w 1M2x 1M2y 1M2z 1M30 1M31 1M32 1M33 1M34 1M35 1M36 1M37 1M38",
    "1M39 1M3a 1M3b 1M3c 1M3d 1M3e 1M2p 1M2q 1M2r 1M2s 1M2t 1M2u 1M2v 1X 1M2x 1M2y 1M2z 1M30",
    "1M31 1M32 1M33 1M34 1M35 1M36 1M37 1M38 1M39 1M3a 1M3b 1M3c 1M3d 1M3e 1M2p 1M2q 1M2r 1M2s",
    "1M2t 1M2u 1M2v 1M2w 1M2x 1M2y 1M2z 1M30 1M31 1M32 1M33 1M34 1M35 1M36 1M37 1M38 1M39 1M3a",
    "1M3b 1M3c 1M3d 1M3e 1M2p 1M2q 1M2r 1M2s 1M2t 1M2u 1M2v 1M2w 1M2x 1M2y 1M2z 1M30 1M31 1M32",
    "1M33 1M34 1M35 1M36 1M37 1M38 1M39 1M3a 1M3b 1M3c 1M3d 1M3e 1M2p 1X 1M2r 1M2s 1X 2M2v 1X",
    "2M2y 1M2z 1X 2M32 1M33 1M34 1M35 1X 1M37 1M38 1M39 1M3a 1M3b 1M3c 1M3d 1M3e 1M2p 1M2q 1M2r",
    "1M2s 1X 1M2u 1X 1M2w 1M2x 1M2y 1M2z 1M30 1M31 1M32 1X 1M34 1M35 1M36 1M37 1M38 1M39 1M3a",
    "1M3b 1M3c 1M3d 1M3e 1M2p 1M2q 1M2r 1M2s 1M2t 1M2u 1M2v 1M2w 1M2x 1M2y 1M2z 1M30 1M31 1M32",
    "1M33 1M34 1M35 1M36 1M37 1M38 1M39 1M3a 1M3b 1M3c 1M3d 1M3e 1M2p 1M2q 1M2r 1M2s 1M2t 1M2u",
    "1M2v 1M2w 1M2x 1M2y 1M2z 1M30 1M31 1M32 1M33 1M34 1M35 1M36 1M37 1M38 1M39 1M3a 1M3b 1M3c",
    "1M3d 1M3e 1M2p 1M2q 1X 1M2s 1M2t 1M2u 1M2v 1X 2M2y 1M2z 1M30 1M31 1M32 1M33 1M34 1M35 1X",
    "1M37 1M38 1M39 1M3a 1M3b 1M3c 1M3d 1X 1M2p 1M2q 1M2r 1M2s 1M2t 1M2u 1M2v 1M2w 1M2x 1M2y",
    "1M2z 1M30 1M31 1M32 1M33 1M34 1M35 1M36 1M37 1M38 1M39 1M3a 1M3b 1M3c 1M3d 1M3e 1M2p 1M2q",
    "1X 1M2s 1M2t 1M2u 1M2v 1X 1M2x 1M2y 1M2z 1M30 1M31 1X 1M33 1X 3M37 1M38 1M39 1M3a 1M3b",
    "1M3c 1M3d 1X 1M2p 1M2q 1M2r 1M2s 1M2t 1M2u 1M2v 1M2w 1M2x 1M2y 1M2z 1M30 1M31 1M32 1M33",
    "1M34 1M35 1M36 1M37 1M38 1M39 1M3a 1M3b 1M3c 1M3d 1M3e 1M2p 1M2q 1M2r 1M2s 1M2t 1M2u 1M2v",
    "1M2w 1M2x 1M2y 1M2z 1M30 1M31 1M32 1M33 1M34 1M35 1M36 1M37 1M38 1M39 1M3a 1M3b 1M3c 1M3d",
    "1M3e 1M2p 1M2q 1M2r 1M2s 1M2t 1M2u 1M2v 1M2w 1M2x 1M2y 1M2z 1M30 1M31 1M32 1M33 1M34 1M35",
    "1M36 1M37 1M38 1M39 1M3a 1M3b 1M3c 1M3d 1M3e 1M2p 1M2q 1M2r 1M2s 1M2t 1M2u 1M2v 1M2w 1M2x",
    "1M2y 1M2z 1M30 1M31 1M32 1M33 1M34 1M35 1M36 1M37 1M38 1M39 1M3a 1M3b 1M3c 1M3d 1M3e 1M2p",
    "1M2q 1M2r 1M2s 1M2t 1M2u 1M2v 1M2w 1M2x 1M2y 1M2z 1M30 1M31 1M32 1M33 1M34 1M35 1M36 1M37",
    "1M38 1M39 1M3a 1M3b 1M3c 1M3d 1M3e 1M2p 1M2q 1M2r 1M2s 1M2t 1M2u 1M2v 1M2w 1M2x 1M2y 1M2z",
    "1M30 1M31 1M32 1M33 1M34 1M35 1M36 1M37 1M38 1M39 1M3a 1M3b 1M3c 1M3d 1M3e 1M2p 1M2q 1M2r",
    "1M2s 1M2t 1M2u 1M2v 1M2w 1M2x 1M2y 1M2z 1M30 1M31 1M32 1M33 1M34 1M35 1M36 1M37 1M38 1M39",
    "1M3a 1M3b 1M3c 1M3d 1M3e 1M2p 1M2q 1M2r 1M2s 1M2t 1M2u 1M2v 1M2w 1M2x 1M2y 1M2z 1M30 1M31",
    "1M32 1M33 1M34 1M35 1M36 1M37 1M38 1M39 1M3a 1M3b 1M3c 1M3d 1M3e 1M2p 1M2q 1M2r 1M2s 1M2t",
    "1M2u 1M2v 1M2w 1M2x 1M2y 1M2z 1M30 1M31 1M32 1M33 1M34 1M35 1M36 1M37 1M38 1M39 1M3a 1M3b",
    "1M3c 1M3d 1M3e 1M2p 1M2q 1M2r 1M2s 1M2t 1M2u 1M2v 1M2w 1M2x 1M2y 1M2z 1M30 1M31 1M32 1M33",
    "1M34 1M35 1M36 1M37 1M38 1M39 1M3a 1M3b 1M3c 1M3d 1M3e 1M2p 1M2q 1M2r 1M2s 1M2t 1M2u 1M2v",
    "1M2w 1M2x 1M2y 1M2z 1M30 1M31 1M32 1M33 1M34 1M35 1M36 1M37 1M38 1M39 1M3a 1M3b 1M3c 1M3d",
    "1M3e 1M2p 1M2q 1M2r 1M2s 1M2t 1M2u 1M2v 1M2w 1M2x 1M2y 1M2z 1M30 1M31 1M32 1M33 1M34 1M35",
    "1M36 1M37 1M38 1M39 1M3a 1M3b 1M3c 1M3d 1M3e 1M2p 1M2q 1M2r 1M2s 1M2t 1M2u 1M2v 1M2w 1M2x",
    "1M2y 1M2z 1M30 1M31 1M32 1M33 1M34 1M35 1M36 1M37 1M38 1M39 1M3a 1M3b 1M3c 1M3d 1M3e 1M8h",
    "1Mfr 1X 2Mq9 1Mqa 1Mqb 1Mqc 1Mqd 1Mqe 1Mqf 1Mqg 1Mqh 1Mqi 1Mqj 1Mqk 1Mql 1Mqm 1Mqn 1Mqo",
    "1Mqp 1Mqg 1Mqr 1Mqs 1Mqt 1Mqu 1Mqv 1Mqw 1Mqx 1M6pz 1Mq9 1Mqa 1Mqb 1Mqc 1Mqd 1Mqe 1Mqf 1Mqg",
    "1Mqh 1Mqi 1Mqj 1Mqk 1Mql 1Mqm 1Mqn 1Mqo 1Mqp 1Mqr 2Mqs 1Mqt 1Mqu 1Mqv 1Mqw 1Mqx 1M6pu 1Mqd",
    "1Mqg 1Mqi 1Mqu 1Mqp 1Mqo 1Mq9 1Mqa 1Mqb 1Mqc 1Mqd 1Mqe 1Mqf 1Mqg 1Mqh 1Mqi 1Mqj 1Mqk 1Mql",
    "1Mqm 1Mqn 1Mqo 1Mqp 1Mqg 1Mqr 1Mqs 1Mqt 1Mqu 1Mqv 1Mqw 1Mqx 1M6pz 1Mq9 1Mqa 1Mqb 1Mqc 1Mqd",
    "1Mqe 1Mqf 1Mqg 1Mqh 1Mqi 1Mqj 1Mqk 1Mql 1Mqm 1Mqn 1Mqo 1Mqp 1Mqr 2Mqs 1Mqt 1Mqu 1Mqv 1Mqw",
    "1Mqx 1M6pu 1Mqd 1Mqg 1Mqi 1Mqu 1Mqp 1Mqo 1Mq9 1Mqa 1Mqb 1Mqc 1Mqd 1Mqe 1Mqf 1Mqg 1Mqh 1Mqi",
    "1Mqj 1Mqk 1Mql 1Mqm 1Mqn 1Mqo 1Mqp 1Mqg 1Mqr 1Mqs 1Mqt 1Mqu 1Mqv 1Mqw 1Mqx 1M6pz 1Mq9 1Mqa",
    "1Mqb 1Mqc 1Mqd 1Mqe 1Mqf 1Mqg 1Mqh 1Mqi 1Mqj 1Mqk 1Mql 1Mqm 1Mqn 1Mqo 1Mqp 1Mqr 2Mqs 1Mqt",
    "1Mqu 1Mqv 1Mqw 1Mqx 1M6pu 1Mqd 1Mqg 1Mqi 1Mqu 1Mqp 1Mqo 1Mq9 1Mqa 1Mqb 1Mqc 1Mqd 1Mqe 1Mqf",
    "1Mqg 1Mqh 1Mqi 1Mqj 1Mqk 1Mql 1Mqm 1Mqn 1Mqo 1Mqp 1Mqg 1Mqr 1Mqs 1Mqt 1Mqu 1Mqv 1Mqw 1Mqx",
    "1M6pz 1Mq9 1Mqa 1Mqb 1Mqc 1Mqd 1Mqe 1Mqf 1Mqg 1Mqh 1Mqi 1Mqj 1Mqk 1Mql 1Mqm 1Mqn 1Mqo 1Mqp",
    "1Mqr 2Mqs 1Mqt 1Mqu 1Mqv 1Mqw 1Mqx 1M6pu 1Mqd 1Mqg 1Mqi 1Mqu 1Mqp 1Mqo 1Mq9 1Mqa 1Mqb 1Mqc",
    "1Mqd 1Mqe 1Mqf 1Mqg 1Mqh 1Mqi 1Mqj 1Mqk 1Mql 1Mqm 1Mqn 1Mqo 1Mqp 1Mqg 1Mqr 1Mqs 1Mqt 1Mqu",
    "1Mqv 1Mqw 1Mqx 1M6pz 1Mq9 1Mqa 1Mqb 1Mqc 1Mqd 1Mqe 1Mqf 1Mqg 1Mqh 1Mqi 1Mqj 1Mqk 1Mql 1Mqm",
    "1Mqn 1Mqo 1Mqp 1Mqr 2Mqs 1Mqt 1Mqu 1Mqv 1Mqw 1Mqx 1M6pu 1Mqd 1Mqg 1Mqi 1Mqu 1Mqp 1Mqo 1Mrh",
    "2X 2M1c 1M1d 1M1e 1M1f 1M1g 1M1h 1M1i 1M1j 1M1k 1M1l 1M1c 1M1d 1M1e 1M1f 1M1g 1M1h 1M1i",
    "1M1j 1M1k 1M1l 1M1c 1M1d 1M1e 1M1f 1M1g 1M1h 1M1i 1M1j 1M1k 1M1l 1M1c 1M1d 1M1e 1M1f 1M1g",
    "1M1h 1M1i 1M1j 1M1k 1M1l 1M1c 1M1d 1M1e 1M1f 1M1g 1M1h 1M1i 1M1j 1M1k 1M1l 1V i4X fV 5X 1V",
    "fX uoV vX 6V 6X 5xV 7X 1V hX 2V 7X 1V 2X 1V 5X 5Mts 1Mtt 1Mtu 1Mtv 1Mtw 1Mtx 1Mty 1Mtz",
    "1Mu0 1Mu2 1Mu3 1Mu4 1Mu6 1Mu7 1Mu8 1Mu9 1Mua 1Mub 1Muc 1Mud 1Mue 1Muf 1Mug 1Muj 1Mul 1Mum",
    "1Mww9 1Myh 1Muu 1Muw 1Myx 1Mxb 1My7 1Mts 1Mtt 1Mtu 1Mtv 1Mtw 1Mtx 1Mty 1Mtz 1Mu0 1Mu2 1Mu3",
    "1Mu6 1Mu7 1Mu9 1Mub 1Muc 1Mud 1Mue 1Muf 1Mug 1Mui 1Muj 1Mwh 1Muu 1Mut 1Mv3 1Mx7 1Mwup 1Mxd",
    "1X xV 1X 34V 19X 3V eX 2V aX 4V 2X 8wV vX hV 1mX 5V 1X cwV 16X 5yV 17X 4V 1X 5cV vX 1V mX",
    "8V 2X 68V 7X 1V 4X 1V 2X 1V fX 1V 5hX 2V gX 15M2oma 1M2omb 1M2omc 1M2omd 1M2ome 1M2omf",
    "1M2omg 1M2omh 1M2omi 1M2omj 1M2omk 1M2oml 1M2omm 1M2omn 1M2omo 1M2omp 1M2omq 1M2omr 1M2oms",
    "1M2omt 1M2omu 1M2omv 1M2omw 1M2omx 1M2omy 1M2omz 1M2on0 1M2on1 1M2on2 1M2on3 1M2on4 1M2on5",
    "1M2on6 1M2on7 1V 16X 4V aX 4V 2X ltV 1wX 24V 1pX 5eM17r 1M17s 1M17w 1M17z 1X 1M18o 1M182",
    "1M17x 1M187 1M18q 1M18j 1M18k 1M18l 1M18m 1M183 1M189 1M18h 1M185 1M18i 1M181 1M184 1M17u",
    "1M17v 1M17y 1M180 1M186 1M188 1M18a 1M19q 1M1bu 1M1b5 1M19r 1X 1M17s 1M17w 1X 1M18n 1X",
    "2M17x 1X 1M18q 1M18j 1M18k 1M18l 1M18m 1M183 1M189 1M18h 1M185 1M18i 1X 1M184 1M17u 1M17v",
    "1M17y 1X 1M186 1X 1M18a 1X 6M17w 1X 4M17x 1X 1M18q 1X 1M18k 1X 1M18m 1M183 1M189 1X 1M185",
    "1M18i 1X 1M184 1X 2M17y 1X 1M186 1X 1M18a 1X 1M1bu 1X 1M19r 1X 1M17s 1M17w 1X 1M18n 1X",
    "2M17x 1M187 1M18q 1M18j 1X 1M18l 1M18m 1M183 1M189 1M18h 1M185 1M18i 1X 1M184 1M17u 1M17v",
    "1M17y 1X 1M186 1M188 1M18a 1M19q 1X 1M1b5 1X 1M17r 1M17s 1M17w 1M17z 1M18n 1M18o 1M182",
    "1M17x 1M187 1M18q 1X 1M18k 1M18l 1M18m 1M183 1M189 1M18h 1M185 1M18i 1M181 1M184 1M17u",
    "1M17v 1M17y 1M180 1M186 1M188 1M18a 1X 5M17s 1M17w 1M17z 1X 1M18o 1M182 1M17x 1M187 1M18q",
    "1X 1M18k 1M18l 1M18m 1M183 1M189 1M18h 1M185 1M18i 1M181 1M184 1M17u 1M17v 1M17y 1M180",
    "1M186 1M188 1M18a 1X 1gV 2X 7iV 18X 4V 2sX cV fX 2V fX 1V fX 1V 11X bM1c,18 1M1d,18",
    "1M1e,18 1M1f,18 1M1g,18 1M1h,18 1M1i,18 1M1j,18 1M1k,18 1M1l,18 1V 5M14,2p,15 1M14,2q,15",
    "1M14,2r,15 1M14,2s,15 1M14,2t,15 1M14,2u,15 1M14,2v,15 1M14,2w,15 1M14,2x,15 1M14,2y,15",
    "1M14,2z,15 1M14,30,15 1M14,31,15 1M14,32,15 1M14,33,15 1M14,34,15 1M14,35,15 1M14,36,15",
    "1M14,37,15 1M14,38,15 1M14,39,15 1M14,3a,15 1M14,3b,15 1M14,3c,15 1M14,3d,15 1M14,3e,15",
    "1M9hw,37,9hx 1M2r 1M36 1M2r,2s 1M3b,3e 1V 1M2p 1M2q 1M2r 1M2s 1M2t 1M2u 1M2v 1M2w 1M2x",
    "1M2y 1M2z 1M30 1M31 1M32 1M33 1M34 1M35 1M36 1M37 1M38 1M39 1M3a 1M3b 1M3c 1M3d 1M3e",
    "1M2w,3a 1M31,3a 1M37,2s 1M37,37 1M34,34,3a 1M3b,2r 1V qM31,2r 1M31,2s 1M31,36 1V zM2s,2y",
    "1V tX 1kV qM9kr,9jf 1M9mb,9mb 1M9md 1X dMjez 1Mi1j 1Mgjw 1M9mv 1Mfik 1Mhlm 1Mr8j 1Mhm1",
    "1Mfj8 1Mk68 1Mmch 1Mk2h 1Mg99 1Mivg 1Mg3x 1Mk34 1Mg7x 1Moqq 1Mn4v 1Mrs9 1Mhkg 1Mgmx 1Mlxw",
    "1Mjh1 1Mjmd 1Mfeo 1Mfex 1Msi2 1Mijq 1Mffx 1Mgkz 1Mjk7 1Mrxs 1Mjf7 1Mo01 1Mo6y 1Mglk 1Mlts",
    "1Mkcp 1Mkco 1Mn5f 1Mgaa 1Mgxi 1Msp9 1X 4M9hw,kdo,9hx 1M9hw,fex,9hx 1M9hw,fik,9hx",
    "1M9hw,i2x,9hx 1M9hw,m9l,9hx 1M9hw,jf7,9hx 1M9hw,nh3,9hx 1M9hw,gd9,9hx 1M9hw,k0n,9hx 1X",
    "7Mivr 1Mgkv 1X eV 6X 4aV rdX 3V hX 3V dX 3V 62X 6V cX 4V 1X fV cX 4V 1kX 8V aX 6V 14X 8V",
    "uX 2V cX 4V 2X eV 9X 13V 9kX 8V eX 2V dX 3V bX 3V 1lX 1V 1X 4V gX 2V cX 4V aX 7V 43X 1V",
    "2kM1c 1M1d 1M1e 1M1f 1M1g 1M1h 1M1i 1M1j 1M1k 1M1l 1V 1X slV wyoX wV 3dqX 2V 4geX 2V 5rlX",
    "fV haX 1wiMfgd 1Mfg8 1Mfgh 1M2tcy 1Mfog 1Mfqm 1Mfqz 1Mfsy 1Mfwa 1Mfx5 1Mfzb 1Mfyn 1Mae6",
    "1M2ud6 1Mg25 1Mg2c 1Mg2s 1Mg3b 1M2u58 1Maex 1Mg2v 1Mg3x 1M2u6j 1Mg47 1Mg4k 1Mfkc 1Mg4s",
    "1Mg51 1M3ly7 1Mg6t 1Mg77 1Mafz 1Mg8r 1Mg92 1Mgaa 1Mgaf 1Mahh 1Mgcn 1Mgcp 1Mgdg 1Mge2 1Mged",
    "1Mgee 1Mgev 1Mgg9 1Mggh 1Mggq 1Mghf 1Mghp 1Mghr 3M2v58 1Mm7k 1Mgju 1Mgkf 1M2vdv 1Mgkr",
    "1Mgkx 1Mgli 1Mgpq 1Mgmw 1Mgnc 1Mgo8 1Mgpu 1Mgs6 1Mgsw 1Mgur 1Mgv7 1Mgw4 2Mgwp 1Mgx7 1Mgxf",
    "1Mgxu 1Mh7a 1Mgzq 1Mh7b 1Mh1t 1Mh2s 1Mg7b 1Mhke 1Mhce 1Mhdg 1Mhe5 1Mhaj 1Mhf6 1Mhf5 1Mhik",
    "1M2x9g 1Mhki 1Mhkn 1Mhl2 1Mhlm 1Mhlu 1Mhnm 1M2xm0 1M2xnu 1Mhrg 1Mhsr 1Mht3 1Mhqw 1Mhuu",
    "1Maum 1Mav0 1Mhzc 1Mi0u 2M2y88 1Mi4j 1Mi54 1Mi5j 1Mi5v 1M2yhk 1Mi67 1Mi6e 1Mitv 1Mi76",
    "1Mayp 1Mi8w 1Mi9a 1Mibk 1Mia5 1M2z1g 1Mif7 1M2z1i 1Mige 1Migb 1Migs 1Mijl 1Mijm 1Mb3j",
    "1Mikd 1Milk 1Mim5 1Mind 1Mb4y 1M2zr7 1Mb5o 1Mipc 1Mipf 1Mipi 1Miq2 1M3pg2 1Miri 1M3035",
    "2Mpoh 1Misi 2Mb7r 1M335k 1M3cgq 1Miua 1Miuj 1Mb8j 1Mivu 1Mix9 1Mixj 1Miyh 1Mj29 1Mbay",
    "1Mba4 1Mj2s 1M30t0 1Mj47 1Mj7s 1Mj7w 1Mj7y 1Mj7w 1Mj96 1Mj9q 1Mjaq 1Mjac 1Mjan 1Mjby 1Mjci",
    "1Mjcm 1Mjdc 1Mjdn 1Mjfh 1Mjht 1Mjis 1Mjm8 1M31n0 1Mjlp 1Mjjw 1Mjmw 1Mjnn 1Mjqc 1M31td",
    "1Mjs2 1Mjph 1Mjop 1Mbhq 1Mju1 1Mjum 1Mjvh 1Mjuf 1Mbjg 1Mk0f 1Mk18 1M32mi 1Mk4j 1Mkc8 1Mk7d",
    "1Mbo9 1Mk9d 1Mbns 1Mbms 1Mg42 1Mg45 1Mkcg 1Mk9o 1Mpf1 1Mdeh 1Mkd3 1Mkd7 1Mkdd 1Mkf2 1Mker",
    "1M33cz 1Mbpl 1Mkje 1Mkg5 1Mklu 1Mkn9 1M33hp 1Mkni 1Mkkf 1Mkr8 1Mbrx 1Mksi 1Mkv7 1Mkx6",
    "1Ml2g 1M33xf 1Ml3v 1Mbvc 1Ml5t 1M34br 1Ml78 1Mbwu 1Ml82 1Ml9b 1Mla2 1Mla3 1M34p9 1M2yvf",
    "1M34sa 1Mle6 1M354s 1Mlhb 1Mlhp 1Mlev 1Mljq 1Mlku 1Mlmf 1Mlkx 1Mlm1 1Mlmg 1Mlmt 1M357i",
    "1Mlkk 1Mlrj 1Mlta 1Mc37 1Mlvv 1Mlvr 1M35jl 1Mlq1 1Mm0e 1M35ni 1M35ou 1Mm2u 1Mm61 1Mm5a",
    "1Mm57 1Mc5y 1Mm6i 1Mm7x 1Mm7r 1Mm99 1M2u5h 1Mmdh 1M368z 1Mmfw 1M36i3 1Mmjs 1Mmk5 1Mmkw",
    "1M36yw 1Mmm8 1Mmmt 1M3779 1M37dg 1Mmt6 1Mmtn 1Mcdo 1Mmud 1Mce0 2Mmyv 1Mmzg 1Mn01 1Mn0l",
    "1Mn2i 1Mcgr 1Mn50 1M386u 1Mn5q 1M389e 1Mn74 1M2zrz 1Mnbk 1M38v5 1M38vs 1M38zo 1Mcn0 1Mcnc",
    "1Mnhw 1M394j 1M394i 1M395l 1M396b 1Mnj2 1Mnj3 2Mnka 1Mcop 1Mnm3 1Mcp2 1Mcra 1M39r1 1Mnri",
    "1Mnt8 1Mnv0 1Mctf 1M3a5i 1Mnyu 1M3a8q 1M3a9x 1Mo0f 1Mo2z 1Mcvj 1Mo5c 1Mo5m 1Mo5r 1M3at8",
    "1M3b1j 2Moa6 1Md1e 1M3b8r 1Mog6 1Mog9 1Md2f 1M3beo 1Monm 1Md5s 1Moo8 1Moo3 1Moow 1M3c06",
    "1Morn 1Md8h 1Mouf 1Mow2 1Moxx 1Md9w 1M3ciw 1M3cjr 1Mdax 1M3cnt 1Mp6i 1M3cqm 1Mp79 1Mpa2",
    "1Mpad 1M3d22 1M3d43 1Mpcw 1M3d7s 1Mpdc 1M33a7 1Mded 1Mpf6 1Mphf 1Mdfv 1Mpj2 1Mhx1 1M3dlz",
    "1M3dmd 1M33bn 1M33bw 1Mpoh 1Mpok 1Msda 1Mdij 1Mpsh 1Mpsb 1Mpst 1Mgc3 1Mptd 1Mptf 1Mptp",
    "1Mpuu 1M3ebg 1Mput 1Mpwd 1Mpyb 1Mq0d 1Mpwj 1Mq0t 1Mq1z 1Mq53 1Mpxv 1Mq16 1Mq18 1Mq1o",
    "1M3eie 1M3eqz 1M3emt 1Mdnv 1Mq9d 1Mq9f 1Mqae 1M3g0a 1Mqck 1M3f3g 1Mdp9 1Mdpd 1M3f75 1M3ff6",
    "1Mdpn 1Mqj4 1Mqjg 1Mqjr 1Mqjt 1Mqll 1Mqko 1Mqoe 1Mqn6 1Mqrd 1Mqp4 1Mqqz 1Mqrq 1Mdsn 1Mqu9",
    "1Mqv5 1Mdtl 1Mqxs 1Mqxv 1M3giv 1Mr13 1Mr1a 1Mdv9 1Mr22 1Maez 1M3gz2 1M3h46 1Mdz2 1Mdzb",
    "1Mrds 1Mrfx 1Mrka 1Mrpx 1M3hrc 1Mrsb 1Mrsx 1Mrvf 1Mrxz 1M3i9b 1M2upw 1Ms0b 1Mrzw 1Ms1c",
    "1M2uvy 1Ms7o 1Msag 1M3jki 1M3jl9 1Msk4 1Msmp 1Msnl 1M3ju6 1Msnv 1Msvs 1Mt07 1Mt08 1Msxo",
    "1Mt89 1Mt91 1M3ksa 1Mtjf 1Mej9 1Mtkn 1M3l2v 1Meli 1Mts3 1Miia 1Mtur 1M3ltx 1M3lzu 1Mepa",
    "1Mepi 1Mu00 1M3mdm 1Mer6 1M3mhi 1Mu17 2Mu21 1M3mpi 1Mu76 1Meur 1Mu95 1Mucn 1Mude 1Muf2",
    "1Mez2 1M3nsg 1Mumq 1Muv4 1Mv0d 1Mf66 1Mf71 1Mv3b 1M3owe 1Mf7c 1M3oxx 1M3p5a 1M3p8x 1Mvcr",
    "1Mf9y 1Mveh 1Mvem 1Mvet 1Mvf3 1Mvfa 1Mvgb 1M3pxc 1X 15uV 3t7X 5V 6juX f62uI 6oX" ]

end Idna
end Url
end AnalyticsQuery
