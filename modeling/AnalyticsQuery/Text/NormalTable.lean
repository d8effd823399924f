
/-!
# Canonical decompositions and combining classes

A row of the table of decompositions is written as the distance of its code
point from that of the row before in base 36, a letter, and the one or two code
points that it is equivalent to.  The letter is `C` when the two are composed
to the code point again, and `D` when they are not.

A row of the table of combining classes has three numbers: the distance of its
first code point from the last one of the row before, the distance between its
first and its last code point, and the class.
-/

namespace AnalyticsQuery
namespace Text

/-- The decompositions of all characters but the Korean syllables. -/
def decompositionLines : List String :=
  [ "5cC1t,lc 1C1t,ld 1C1t,le 1C1t,lf 1C1t,lk 1C1t,lm 2C1v,mf 1C1x,lc 1C1x,ld 1C1x,le 1C1x,lk",
    "1C21,lc 1C21,ld 1C21,le 1C21,lk 2C26,lf 1C27,lc 1C27,ld 1C27,le 1C27,lf 1C27,lk 3C2d,lc",
    "1C2d,ld 1C2d,le 1C2d,lk 1C2h,ld 3C2p,lc 1C2p,ld 1C2p,le 1C2p,lf 1C2p,lk 1C2p,lm 2C2r,mf",
    "1C2t,lc 1C2t,ld 1C2t,le 1C2t,lk 1C2x,lc 1C2x,ld 1C2x,le 1C2x,lk 2C32,lf 1C33,lc 1C33,ld",
    "1C33,le 1C33,lf 1C33,lk 3C39,lc 1C39,ld 1C39,le 1C39,lk 1C3d,ld 2C3d,lk 1C1t,lg 1C2p,lg",
    "1C1t,li 1C2p,li 1C1t,mg 1C2p,mg 1C1v,ld 1C2r,ld 1C1v,le 1C2r,le 1C1v,lj 1C2r,lj 1C1v,lo",
    "1C2r,lo 1C1w,lo 1C2s,lo 3C1x,lg 1C2t,lg 1C1x,li 1C2t,li 1C1x,lj 1C2t,lj 1C1x,mg 1C2t,mg",
    "1C1x,lo 1C2t,lo 1C1z,le 1C2v,le 1C1z,li 1C2v,li 1C1z,lj 1C2v,lj 1C1z,mf 1C2v,mf 1C20,le",
    "1C2w,le 3C21,lf 1C2x,lf 1C21,lg 1C2x,lg 1C21,li 1C2x,li 1C21,mg 1C2x,mg 1C21,lj 4C22,le",
    "1C2y,le 1C23,mf 1C2z,mf 2C24,ld 1C30,ld 1C24,mf 1C30,mf 1C24,lo 1C30,lo 5C26,ld 1C32,ld",
    "1C26,mf 1C32,mf 1C26,lo 1C32,lo 4C27,lg 1C33,lg 1C27,li 1C33,li 1C27,ln 1C33,ln 3C2a,ld",
    "1C36,ld 1C2a,mf 1C36,mf 1C2a,lo 1C36,lo 1C2b,ld 1C37,ld 1C2b,le 1C37,le 1C2b,mf 1C37,mf",
    "1C2b,lo 1C37,lo 1C2c,mf 1C38,mf 1C2c,lo 1C38,lo 3C2d,lf 1C39,lf 1C2d,lg 1C39,lg 1C2d,li",
    "1C39,li 1C2d,lm 1C39,lm 1C2d,ln 1C39,ln 1C2d,mg 1C39,mg 1C2f,le 1C3b,le 1C2h,le 1C3d,le",
    "1C2h,lk 1C2i,ld 1C3e,ld 1C2i,lj 1C3e,lj 1C2i,lo 1C3e,lo yC27,m3 1C33,m3 eC2d,m3 1C39,m3",
    "tC1t,lo 1C2p,lo 1C21,lo 1C2x,lo 1C27,lo 1C33,lo 1C2d,lo 1C39,lo 1C64,lg 1C70,lg 1C64,ld",
    "1C70,ld 1C64,lo 1C70,lo 1C64,lc 1C70,lc 2C5g,lg 1C6c,lg 1Cfa,lg 1Cfb,lg 1C5i,lg 1C6e,lg",
    "3C1z,lo 1C2v,lo 1C23,lo 1C2z,lo 1C27,mg 1C33,mg 1Cdm,lg 1Cdn,lg 1Cc7,lo 1Cia,lo 1C2y,lo",
    "4C1z,ld 1C2v,ld 3C26,lc 1C32,lc 1C5h,ld 1C6d,ld 1C5i,ld 1C6e,ld 1C60,ld 1C6w,ld 1C1t,lr",
    "1C2p,lr 1C1t,lt 1C2p,lt 1C1x,lr 1C2t,lr 1C1x,lt 1C2t,lt 1C21,lr 1C2x,lr 1C21,lt 1C2x,lt",
    "1C27,lr 1C33,lr 1C27,lt 1C33,lt 1C2a,lr 1C36,lr 1C2a,lt 1C36,lt 1C2d,lr 1C39,lr 1C2d,lt",
    "1C39,lt 1C2b,me 1C37,me 1C2c,me 1C38,me 3C20,lo 1C2w,lo 7C1t,lj 1C2p,lj 1C1x,mf 1C2t,mf",
    "1C5y,lg 1C6u,lg 1C5x,lg 1C6t,lg 1C27,lj 1C33,lj 1Cfi,lg 1Cfj,lg 1C2h,lg 1C3d,lg 7hDlc 1Dld",
    "2Dlv 1Dlk,ld 1cDjd aD1n 7C4o,ld 1Cpd,ld 1D53 1Cph,ld 1Cpj,ld 1Cpl,ld 2Cpr,ld 2Cpx,ld",
    "1Cq1,ld 1Cqy,ld qCpl,lk 1Cpx,lk 1Cq9,ld 1Cqd,ld 1Cqf,ld 1Cqh,ld 1Cqz,ld qCqh,lk 1Cqt,lk",
    "1Cqn,ld 1Cqt,ld 1Cqx,ld 5Cr6,ld 1Cr6,lk 18Ct1,lc 1Ct1,lk 2Csz,ld 4Csm,lk 5Ct6,ld 1Ct4,lc",
    "1Ctf,li bCt4,li wCu0,li nCtx,lc 1Ctx,lk 2Ctv,ld 4Cuu,lk 5Cu2,ld 1Cu0,lc 1Cub,li oCvo,lr",
    "1Cvp,lr 22Ct2,li 1Cty,li eCsw,li 1Cts,li 1Csw,lk 1Cts,lk 3Ct1,li 1Ctx,li 3Cyg,lk 1Cyh,lk",
    "1Ct2,lk 1Cty,lk 1Ct3,lk 1Ctz,lk 3Ct4,lg 1Cu0,lg 1Ct4,lk 1Cu0,lk 1Cta,lk 1Cu6,lk 3Cyw,lk",
    "1Cyx,lk 1Ctp,lk 1Cul,lk 1Ctf,lg 1Cub,lg 1Ctf,lk 1Cub,lk 1Ctf,ln 1Cub,ln 1Ctj,lk 1Cuf,lk",
    "3Ctn,lk 1Cuj,lk 89C17r,18z 1C17r,190 1C18o,190 1C17r,191 1C18q,190 4aC1cl,190 2C1c1,190",
    "hC1ci,190 gmC1t4,1to 8C1tc,1to 3C1tf,1to 10D1sl,1to 1D1sm,1to 1D1sn,1to 1D1ss,1to",
    "1D1sx,1to 1D1sy,1to 1D1t7,1to 1D1tb,1to 30C1xj,1xa 1C1xj,1xz gD1wh,1x8 1D1wi,1x8 2D1wv,1x8",
    "2cD20i,20s 3D20o,20s zD1zq,20s 1D1zr,20s 1D1zw,20s 3D20b,20s 6iC287,28m 3C287,27y",
    "1C287,28n gD275,27w 1D276,27w 1jC2aa,2c7 1iC2bq,2bi 1C2br,2bi 1C2bq,2c7 3gC2fa,2fq",
    "3cC2in,2j9 7C2iu,2j9 1C2iu,2ja 2C2iu,2iq 1C2iy,2j9 3jC2me,2m6 1C2mf,2m6 1C2me,2mv",
    "3yC2qh,2q2 2C2qh,2q7 1C2qk,2q2 1C2qh,2qn 9xD30i,33r aD30s,33r 5D30x,33r 5D312,33r",
    "5D317,33r dD30g,33p aD31t,31u 2D31t,31w 1D33m,328 2D33n,328 9D31t,328 iD32q,33r aD330,33r",
    "5D335,33r 5D33a,33r 5D33f,33r dD32o,33p 31C36t,372 25cC5c5,5dh 2C5c7,5dh 2C5c9,5dh",
    "2C5cb,5dh 2C5cd,5dh 4C5ch,5dh 15C5dm,5dh 2C5do,5dh 3C5dq,5dh 1C5dr,5dh 2C5du,5dh jhC1t,md",
    "1C2p,md 1C1u,lj 1C2q,lj 1C1u,mb 1C2q,mb 1C1u,mp 1C2q,mp 1C5j,ld 1C6f,ld 1C1w,lj 1C2s,lj",
    "1C1w,mb 1C2s,mb 1C1w,mp 1C2s,mp 1C1w,mf 1C2s,mf 1C1w,ml 1C2s,ml 1C7m,lc 1C7n,lc 1C7m,ld",
    "1C7n,ld 1C1x,ml 1C2t,ml 1C1x,mo 1C2t,mo 1Cfc,li 1Cfd,li 1C1y,lj 1C2u,lj 1C1z,lg 1C2v,lg",
    "1C20,lj 1C2w,lj 1C20,mb 1C2w,mb 1C20,lk 1C2w,lk 1C20,mf 1C2w,mf 1C20,mm 1C2w,mm 1C21,mo",
    "1C2x,mo 1C5r,ld 1C6n,ld 1C23,ld 1C2z,ld 1C23,mb 1C2z,mb 1C23,mp 1C2z,mp 1C24,mb 1C30,mb",
    "1C5yu,lg 1C5yv,lg 1C24,mp 1C30,mp 1C24,ml 1C30,ml 1C25,ld 1C31,ld 1C25,lj 1C31,lj 1C25,mb",
    "1C31,mb 1C26,lj 1C32,lj 1C26,mb 1C32,mb 1C26,mp 1C32,mp 1C26,ml 1C32,ml 1C5x,ld 1C6t,ld",
    "1C5x,lk 1C6t,lk 1C98,lc 1C99,lc 1C98,ld 1C99,ld 1C28,ld 1C34,ld 1C28,lj 1C34,lj 1C2a,lj",
    "1C36,lj 1C2a,mb 1C36,mb 1C5zu,lg 1C5zv,lg 1C2a,mp 1C36,mp 1C2b,lj 1C37,lj 1C2b,mb 1C37,mb",
    "1C9m,lj 1C9n,lj 1C9s,lj 1C9t,lj 1C602,lj 1C603,lj 1C2c,lj 1C38,lj 1C2c,mb 1C38,mb 1C2c,mp",
    "1C38,mp 1C2c,ml 1C38,ml 1C2d,mc 1C39,mc 1C2d,mo 1C39,mo 1C2d,ml 1C39,ml 1Ca0,ld 1Ca1,ld",
    "1Ca2,lk 1Ca3,lk 1C2e,lf 1C3a,lf 1C2e,mb 1C3a,mb 1C2f,lc 1C3b,lc 1C2f,ld 1C3b,ld 1C2f,lk",
    "1C3b,lk 1C2f,lj 1C3b,lj 1C2f,mb 1C3b,mb 1C2g,lj 1C3c,lj 1C2g,lk 1C3c,lk 1C2h,lj 1C3d,lj",
    "1C2i,le 1C3e,le 1C2i,mb 1C3e,mb 1C2i,mp 1C3e,mp 1C2w,mp 1C38,lk 1C3b,lm 1C3d,lm 2Can,lj",
    "5C1t,mb 1C2p,mb 1C1t,ll 1C2p,ll 1C5e,ld 1C6a,ld 1C5e,lc 1C6a,lc 1C5e,ll 1C6a,ll 1C5e,lf",
    "1C6a,lf 1C61s,le 1C61t,le 1C76,ld 1C77,ld 1C76,lc 1C77,lc 1C76,ll 1C77,ll 1C76,lf 1C77,lf",
    "1C61s,li 1C61t,li 1C1x,mb 1C2t,mb 1C1x,ll 1C2t,ll 1C1x,lf 1C2t,lf 1C5m,ld 1C6i,ld 1C5m,lc",
    "1C6i,lc 1C5m,ll 1C6i,ll 1C5m,lf 1C6i,lf 1C62g,le 1C62h,le 1C21,ll 1C2x,ll 1C21,mb 1C2x,mb",
    "1C27,mb 1C33,mb 1C27,ll 1C33,ll 1C5w,ld 1C6s,ld 1C5w,lc 1C6s,lc 1C5w,ll 1C6s,ll 1C5w,lf",
    "1C6s,lf 1C630,le 1C631,le 1Cbk,ld 1Cbl,ld 1Cbk,lc 1Cbl,lc 1Cbk,ll 1Cbl,ll 1Cbk,lf 1Cbl,lf",
    "1Cbk,mb 1Cbl,mb 1C2d,mb 1C39,mb 1C2d,ll 1C39,ll 1Cbz,ld 1Cc0,ld 1Cbz,lc 1Cc0,lc 1Cbz,ll",
    "1Cc0,ll 1Cbz,lf 1Cc0,lf 1Cbz,mb 1Cc0,mb 1C2h,lc 1C3d,lc 1C2h,mb 1C3d,mb 1C2h,ll 1C3d,ll",
    "1C2h,lf 1C3d,lf 7Cq9,lv 1Cq9,lw 1C64g,lc 1C64h,lc 1C64g,ld 1C64h,ld 1C64g,n6 1C64h,n6",
    "1Cpd,lv 1Cpd,lw 1C64o,lc 1C64p,lc 1C64o,ld 1C64p,ld 1C64o,n6 1C64p,n6 1Cqd,lv 1Cqd,lw",
    "1C64w,lc 1C64x,lc 1C64w,ld 1C64x,ld 3Cph,lv 1Cph,lw 1C654,lc 1C655,lc 1C654,ld 1C655,ld",
    "3Cqf,lv 1Cqf,lw 1C65c,lc 1C65d,lc 1C65c,ld 1C65d,ld 1C65c,n6 1C65d,n6 1Cpj,lv 1Cpj,lw",
    "1C65k,lc 1C65l,lc 1C65k,ld 1C65l,ld 1C65k,n6 1C65l,n6 1Cqh,lv 1Cqh,lw 1C65s,lc 1C65t,lc",
    "1C65s,ld 1C65t,ld 1C65s,n6 1C65t,n6 1Cpl,lv 1Cpl,lw 1C660,lc 1C661,lc 1C660,ld 1C661,ld",
    "1C660,n6 1C661,n6 1Cqn,lv 1Cqn,lw 1C668,lc 1C669,lc 1C668,ld 1C669,ld 3Cpr,lv 1Cpr,lw",
    "1C66g,lc 1C66h,lc 1C66g,ld 1C66h,ld 3Cqt,lv 1Cqt,lw 1C66o,lc 1C66p,lc 1C66o,ld 1C66p,ld",
    "1C66o,n6 1C66p,n6 2Cpx,lw 2C66x,lc 2C66x,ld 2C66x,n6 1Cqx,lv 1Cqx,lw 1C674,lc 1C675,lc",
    "1C674,ld 1C675,ld 1C674,n6 1C675,n6 1Cq1,lv 1Cq1,lw 1C67c,lc 1C67d,lc 1C67c,ld 1C67d,ld",
    "1C67c,n6 1C67d,n6 1Cq9,lc 1Dq4 1Cqd,lc 1Dq5 1Cqf,lc 1Dq6 1Cqh,lc 1Dq7 1Cqn,lc 1Dr0 1Cqt,lc",
    "1Dr1 1Cqx,lc 1Dr2 3C64g,n9 1C64h,n9 1C64i,n9 1C64j,n9 1C64k,n9 1C64l,n9 1C64m,n9 1C64n,n9",
    "1C64o,n9 1C64p,n9 1C64q,n9 1C64r,n9 1C64s,n9 1C64t,n9 1C64u,n9 1C64v,n9 1C65c,n9 1C65d,n9",
    "1C65e,n9 1C65f,n9 1C65g,n9 1C65h,n9 1C65i,n9 1C65j,n9 1C65k,n9 1C65l,n9 1C65m,n9 1C65n,n9",
    "1C65o,n9 1C65p,n9 1C65q,n9 1C65r,n9 1C674,n9 1C675,n9 1C676,n9 1C677,n9 1C678,n9 1C679,n9",
    "1C67a,n9 1C67b,n9 1C67c,n9 1C67d,n9 1C67e,n9 1C67f,n9 1C67g,n9 1C67h,n9 1C67i,n9 1C67j,n9",
    "1Cq9,li 1Cq9,lg 1C67k,n9 1Cq9,n9 1Cq4,n9 2Cq9,n6 1C69i,n9 1Cpd,li 1Cpd,lg 1Cpd,lc 1Dp2",
    "1Cpd,n9 2Dqh 3C4o,n6 1C67o,n9 1Cqf,n9 1Cq6,n9 2Cqf,n6 1C69y,n9 1Cph,lc 1Dp4 1Cpj,lc 1Dp5",
    "1Cpj,n9 1C69r,lc 1C69r,ld 1C69r,n6 1Cqh,li 1Cqh,lg 1Cqy,lc 1Dpc 3Cqh,n6 1Cqy,n6 1Cpl,li",
    "1Cpl,lg 1Cpl,lc 1Dp6 2C6bi,lc 1C6bi,ld 1C6bi,n6 1Cqt,li 1Cqt,lg 1Cqz,lc 1Dq8 1Cqp,lv",
    "1Cqp,lw 1Cqt,n6 1Cqz,n6 1Cpx,li 1Cpx,lg 1Cpx,lc 1Dpa 1Cpt,lw 1C4o,lc 1Dp1 1D2o 3C67w,n9",
    "1Cqx,n9 1Cr2,n9 2Cqx,n6 1C6ba,n9 1Cpr,lc 1Dp8 1Cq1,lc 1Dpb 1Cq1,n9 1D50 3D6bm 1D6bn 85Dq1",
    "4D23 1D5h 33C6mo,mw 1C6mq,mw jC6ms,mw vC6og,mw 1C6ok,mw 1C6oi,mw 1hC6pv,mw 5C6q0,mw",
    "3C6q3,mw oC6qr,mw 2C6qt,mw rC6rg,mw 3C6rn,mw 3C6rp,mw 2C6rs,mw nC1p,mw 2C6sh,mw bC6rx,mw",
    "1C1o,mw 1C1q,mw 1C6sk,mw 1C6sl,mw 3C6sy,mw 1C6sz,mw 3C6t2,mw 1C6t3,mw 7C6t6,mw 1C6t7,mw",
    "3C6te,mw 1C6tf,mw 3C6ti,mw 1C6tj,mw zC6ua,mw 1C6ug,mw 1C6uh,mw 1C6uj,mw 1dC6t8,mw 1C6t9,mw",
    "1C6tt,mw 1C6tu,mw 7C6uq,mw 1C6ur,mw 1C6us,mw 1C6ut,mw 1oD9hk 1D9hl 1iqD8gt,mw 12oC9jf,9ll",
    "2C9jh,9ll 2C9jj,9ll 2C9jl,9ll 2C9jn,9ll 2C9jp,9ll 2C9jr,9ll 2C9jt,9ll 2C9jv,9ll 2C9jx,9ll",
    "2C9jz,9ll 2C9k1,9ll 3C9k4,9ll 2C9k6,9ll 2C9k8,9ll 7C9kf,9ll 1C9kf,9lm 2C9ki,9ll 1C9ki,9lm",
    "2C9kl,9ll 1C9kl,9lm 2C9ko,9ll 1C9ko,9lm 2C9kr,9ll 1C9kr,9lm nC9ja,9ll aC9lp,9ll eC9m3,9ll",
    "2C9m5,9ll 2C9m7,9ll 2C9m9,9ll 2C9mb,9ll 2C9md,9ll 2C9mf,9ll 2C9mh,9ll 2C9mj,9ll 2C9ml,9ll",
    "2C9mn,9ll 2C9mp,9ll 3C9ms,9ll 2C9mu,9ll 2C9mw,9ll 7C9n3,9ll 1C9n3,9lm 2C9n6,9ll 1C9n6,9lm",
    "2C9n9,9ll 1C9n9,9lm 2C9nc,9ll 1C9nc,9lm 2C9nf,9ll 1C9nf,9lm nC9ly,9ll 3C9nz,9ll 1C9o0,9ll",
    "1C9o1,9ll 1C9o2,9ll 4C9od,9ll 13iaDrpk 1Dkc4 1Ds7e 1Drt4 1Dlw1 1Dfg2 1Dgkl 1Dvj0 1Dvj0",
    "1Dhn5 1Dssx 1Dgw7 1Dhmw 1Djcm 1Dne1 1Dp6t 1Dqin 1Dqt6 1Dr20 1Dsjz 1Dkxu 1Dljv 1Dmah 1Dmvy",
    "1Dq4d 1Dsq2 1Duep 1Dfia 1Dghh 1Dl50 1Dmjf 1Dqi5 1Dv8e 1Difk 1Dm3v 1Dqfh 1Dr50 1Djih 1Dpnc",
    "1Dqvz 1Diq2 1Dkd3 1Dlm2 1Dmpo 1Dslq 1Dfpi 1Dg53 1Dgda 1Djwk 1Dl3n 1Dmj4 1Dnhj 1Dpa9 1Dqh2",
    "1Dqjg 1Ds1b 1Dtv6 1Dupb 1Dv7e 1Dnt8 1Dnzz 1Dotc 1Dq15 1Dt1g 1Dvb3 1Drfa 1Dhjz 1Diro 1Dokg",
    "1Dpdq 1Dmle 1Dnuy 1Drsy 1Dttj 1Dhjs 1Di8y 1Dkyb 1Dlp6 1Dlxr 1Doq7 1Doxj 1Dtor 1Dgcy 1Dpe3",
    "1Dg64 1Dg5o 1Do4c 1Dou6 1Dq29 1Dtpx 1Drk0 1Djin 1Dkxu 1Drge 1Dfg9 1Di5j 1Diz6 1Dmtj 1Dn74",
    "1Dgev 1Dnwb 1Dfr3 1Diw9 1Dff1 1Dlho 1Dk1k 1Dopu 1Dgjn 1Dhge 1Dni9 1Dq4p 1Dre2 1Dla2 1Dsds",
    "1Dlfs 1Djjy 1Dput 1Djog 1Dn6t 1Dfji 1Dg2x 1Dg5l 1Dkn5 1Doo7 1Dprj 1Drf6 1Dssv 1Dgdx 1Dgn6",
    "1Dho3 1Dir0 1Dk3p 1Dm4e 1Dnxm 1Dtkd 1Dui2 1Dvbr 1Dvda 1Dgbf 1Dkau 1Dl87 1Dsbm 1Dino 1Dj9s",
    "1Djcw 1Djve 1Dlyb 1Dmdl 1Dn0p 1Do22 1Dovo 1Dpdb 1Ds9y 1Dq9a 1Dsgz 1Dt3e 1Dg7r 1Dgbn 1Dgql",
    "1Dma0 1Dr0i 1Dre2 1Diq1 1Diyd 1Djnf 1Dl9q 1Doji 1Dmt1 1Dfl0 1Dh6h 1Di5j 1Diii 1Dizg 1Dmuq",
    "1Dmzt 1Dp7e 1Dpc6 1Dsvo 1Dtti 1Dtvs 1Du1k 1Dfpn 1Do1a 1Dss4 1Dtrs 1Dj4x 1Dfie 1Dfyy 1Di5q",
    "1Di7z 1Dk2h 1Dkxu 1Dmha 1Dncy 1Dq9o 1Dsjg 1Dvil 1Dk94 1Dtny 1Dgax 1Dkfv 1Dkj7 1Dlkx 1Dluk",
    "1Dmx5 1Dn6h 1Dnsb 1Dopc 1Du3i 1Dg31 1Dje6 1Dtq0 1Dfu3 1Die1 1Dlpm 1Dsa2 1Divf 1Dj7o 1Dkk7",
    "1Dmtj 1Dtqe 1Dg89 1Dglr 1Di91 1Dk5v 1Dkem 1Dko8 1Dlid 1Dmx2 1Dnaa 1Dp6h 1Dr0v 1Dr1d 1Dsss",
    "1Dtsy 1Dgfz 1Dlve 1Dgm5 1Dmhc 1Dn14 1Dqgq 1Dtr7 1Duvr 1Dvbz 1Dkgn 1Dlor 1Dpns 1Do97 1Dobk",
    "1Dolu 1Dmo0 1Dm8p 1Driw 1Dfk0 1Dpx2 1Dg8q 1Dg7b 1Dip2 1Djir 1Donq 1Di2t 1Dljy 1Dkac 1Dsaj",
    "1Dqx8 1Dtot 1Dr63 1Diqb 1Dg1s 1Dgxs 3Dhga 2Dk8k 3Dg66 1Dmqy 1Dngq 1Dny4 1Dnz2 1Dnz9 1Do0f",
    "1Dtw6 1Don2 1Dp8d 2Dqhe 2Drg8 3Dshk 1Dsn1 4Du7j 1Du7w 1Du94 1Dv5g 1Dsm6 1Dtrr 1Dfqm 1Dfzb",
    "1Dg25 1Dgcp 1Dgdg 1Dggh 1Dgwt 1Dgzq 1Dh2g 1Dhfk 1Dhig 1Di90 1Di9a 1Dj2s 1Dj8o 1Dj9q 1Djci",
    "1Dk0f 1Dk4i 1Dk9d 1Dkn9 1Dlmf 1Dlqy 1Dlya 1Dmem 1Dmjv 1Dmxu 1Dntd 1Dny6 1Dnyh 1Dnyg 1Dnyo",
    "1Dnyu 1Dnz1 1Do0d 1Do0e 1Do5c 1Do75 1Dog0 1Dovo 1Dow9 1Doxt 1Dp6a 1Dpad 1Dpnx 1Dprt 1Dprt",
    "1Dq53 1Dr2o 1Dr6e 1Drgh 1Dri1 1Drtf 1Druw 1Dsdy 1Dshk 1Dtsz 1Du0v 1Du2j 1Dj1x 1D36cu 1Dpp4",
    "3Dffq 1Dg51 1Dg2w 1Dfpc 1Dg1x 1Dg3k 1Dgcn 1Dge2 1Dgwt 1Dgut 1Dgwp 1Dgyq 1Dhga 1Dhir 1Dhms",
    "1Dhn8 1Dhuq 1Di08 1Diqa 1Diqh 1Diuh 1Diwd 1Dj4o 1Dj7y 1Dj60 1Dj9q 1Dj8g 1Djci 1Djec 1Djpg",
    "1Djrw 1Djte 1Dk0m 1Dk8k 1Dkd3 1Dkd7 1Dkeu 1Dl89 1Dla2 1Dlkx 1Dlwb 1Dlvv 1Dlya 1Dm5a 1Dmem",
    "1Dnmv 1Dmk5 1Dmnj 1Dmqy 1Dn01 1Dn46 1Dn5n 1Dnbx 1Dnbz 1Dngq 1Dnh7 1Dnhw 1Dnka 1Dnk0 1Dnv0",
    "1Do8h 1Dog0 1Dol7 1Dorf 1Dovo 1Dp4u 1Dpad 1Dpxu 1Dq27 1Dqrd 1Dr41 1Dr5y 1Dr6e 1Dren 1Drg8",
    "1Drez 1Drgh 1Drge 1Drfx 1Dri1 1Drka 1Druw 1Dsag 1Dsj6 1Dsrd 1Dsxi 1Dtq4 1Dtsz 1Dtw6 1Dtzv",
    "1Du0v 1Du17 1Du2j 1Dumq 1Dvj0 1D313e 1D3138 1D33dh 1Dbrx 1Dcns 1Dcop 1D39e1 1D3bgw 1D3i6r",
    "1Dvgj 1Dvim 1wD15l,14k 2D16a,14n bD161,14x 1D161,14y 1D1dmx,14x 1D1dmx,14y 1D15c,14n",
    "1D15c,14o 1D15c,14s 1D15d,14s 1D15e,14s 1D15f,14s 1D15g,14s 1D15h,14s 1D15i,14s 2D15k,14s",
    "1D15l,14s 1D15m,14s 1D15n,14s 1D15o,14s 2D15q,14s 2D15s,14s 1D15t,14s 2D15v,14s 1D15w,14s",
    "2D15y,14s 1D15z,14s 1D160,14s 1D161,14s 1D162,14s 1D15h,14p 1D15d,14v 1D15n,14v 1D15w,14v",
    "47gC1huh,1hve 2C1huj,1hve fC1hut,1hve 3nC1hyp,1hyf 1C1hyq,1hyf f0C1idj,1ida 1C1idj,1idz",
    "a7C1int,1inu 1C1int,1ink 2C1int,1inx 70C1iuw,1iun 1C1iux,1iun otC1jjp,1jjk 10diD2jx3,2jxh",
    "1D2jx4,2jxh 1D2jxb,2jxq 1D2jxb,2jxr 1D2jxb,2jxs 1D2jxb,2jxt 1D2jxb,2jxu 2fD2jzt,2jxh",
    "1D2jzu,2jxh 1D2jzv,2jxq 1D2jzw,2jxq 1D2jzv,2jxr 1D2jzw,2jxr 1m4gDfgd 1Dfg8 1Dfgh 1D2tcy",
    "1Dfog 1Dfqm 1Dfqz 1Dfsy 1Dfwa 1Dfx5 1Dfzb 1Dfyn 1Dae6 1D2ud6 1Dg25 1Dg2c 1Dg2s 1Dg3b",
    "1D2u58 1Daex 1Dg2v 1Dg3x 1D2u6j 1Dg47 1Dg4k 1Dfkc 1Dg4s 1Dg51 1D3ly7 1Dg6t 1Dg77 1Dafz",
    "1Dg8r 1Dg92 1Dgaa 1Dgaf 1Dahh 1Dgcn 1Dgcp 1Dgdg 1Dge2 1Dged 1Dgee 1Dgev 1Dgg9 1Dggh 1Dggq",
    "1Dghf 1Dghp 1Dghr 1Dghr 1Dghr 1D2v58 1Dm7k 1Dgju 1Dgkf 1D2vdv 1Dgkr 1Dgkx 1Dgli 1Dgpq",
    "1Dgmw 1Dgnc 1Dgo8 1Dgpu 1Dgs6 1Dgsw 1Dgur 1Dgv7 1Dgw4 1Dgw4 1Dgwp 1Dgx7 1Dgxf 1Dgxu 1Dh7a",
    "1Dgzq 1Dh7b 1Dh1t 1Dh2s 1Dg7b 1Dhke 1Dhce 1Dhdg 1Dhe5 1Dhaj 1Dhf6 1Dhf5 1Dhik 1D2x9g 1Dhki",
    "1Dhkn 1Dhl2 1Dhlm 1Dhlu 1Dhnm 1D2xm0 1D2xnu 1Dhrg 1Dhsr 1Dht3 1Dhqw 1Dhuu 1Daum 1Dav0",
    "1Dhzc 1Di0u 1Di0u 1D2y88 1Di4j 1Di54 1Di5j 1Di5v 1D2yhk 1Di67 1Di6e 1Ditv 1Di76 1Dayp",
    "1Di8w 1Di9a 1Dibk 1Dia5 1D2z1g 1Dif7 1D2z1i 1Dige 1Digb 1Digs 1Dijl 1Dijm 1Db3j 1Dikd",
    "1Dilk 1Dim5 1Dind 1Db4y 1D2zr7 1Db5o 1Dipc 1Dipf 1Dipi 1Diq2 1D3pg2 1Diri 1D3035 1D3035",
    "1Dpoh 1Disi 1Disi 1Db7r 1D335k 1D3cgq 1Diua 1Diuj 1Db8j 1Divu 1Dix9 1Dixj 1Diyh 1Dj29",
    "1Dbay 1Dba4 1Dj2s 1D30t0 1Dj47 1Dj7s 1Dj7w 1Dj7y 1Dj7w 1Dj96 1Dj9q 1Djaq 1Djac 1Djan 1Djby",
    "1Djci 1Djcm 1Djdc 1Djdn 1Djfh 1Djht 1Djis 1Djm8 1D31n0 1Djlp 1Djjw 1Djmw 1Djnn 1Djqc",
    "1D31td 1Djs2 1Djph 1Djop 1Dbhq 1Dju1 1Djum 1Djvh 1Djuf 1Dbjg 1Dk0f 1Dk18 1D32mi 1Dk4j",
    "1Dkc8 1Dk7d 1Dbo9 1Dk9d 1Dbns 1Dbms 1Dg42 1Dg45 1Dkcg 1Dk9o 1Dpf1 1Ddeh 1Dkd3 1Dkd7 1Dkdd",
    "1Dkf2 1Dker 1D33cz 1Dbpl 1Dkje 1Dkg5 1Dklu 1Dkn9 1D33hp 1Dkni 1Dkkf 1Dkr8 1Dbrx 1Dksi",
    "1Dkv7 1Dkx6 1Dl2g 1D33xf 1Dl3v 1Dbvc 1Dl5t 1D34br 1Dl78 1Dbwu 1Dl82 1Dl9b 1Dla2 1Dla3",
    "1D34p9 1D2yvf 1D34sa 1Dle6 1D354s 1Dlhb 1Dlhp 1Dlev 1Dljq 1Dlku 1Dlmf 1Dlkx 1Dlm1 1Dlmg",
    "1Dlmt 1D357i 1Dlkk 1Dlrj 1Dlta 1Dc37 1Dlvv 1Dlvr 1D35jl 1Dlq1 1Dm0e 1D35ni 1D35ou 1Dm2u",
    "1Dm61 1Dm5a 1Dm57 1Dc5y 1Dm6i 1Dm7x 1Dm7r 1Dm99 1D2u5h 1Dmdh 1D368z 1Dmfw 1D36i3 1Dmjs",
    "1Dmk5 1Dmkw 1D36yw 1Dmm8 1Dmmt 1D3779 1D37dg 1Dmt6 1Dmtn 1Dcdo 1Dmud 1Dce0 1Dce0 1Dmyv",
    "1Dmzg 1Dn01 1Dn0l 1Dn2i 1Dcgr 1Dn50 1D386u 1Dn5q 1D389e 1Dn74 1D2zrz 1Dnbk 1D38v5 1D38vs",
    "1D38zo 1Dcn0 1Dcnc 1Dnhw 1D394j 1D394i 1D395l 1D396b 1Dnj2 1Dnj3 1Dnj3 1Dnka 1Dcop 1Dnm3",
    "1Dcp2 1Dcra 1D39r1 1Dnri 1Dnt8 1Dnv0 1Dctf 1D3a5i 1Dnyu 1D3a8q 1D3a9x 1Do0f 1Do2z 1Dcvj",
    "1Do5c 1Do5m 1Do5r 1D3at8 1D3b1j 1D3b1j 1Doa6 1Dd1e 1D3b8r 1Dog6 1Dog9 1Dd2f 1D3beo 1Donm",
    "1Dd5s 1Doo8 1Doo3 1Doow 1D3c06 1Dorn 1Dd8h 1Douf 1Dow2 1Doxx 1Dd9w 1D3ciw 1D3cjr 1Ddax",
    "1D3cnt 1Dp6i 1D3cqm 1Dp79 1Dpa2 1Dpad 1D3d22 1D3d43 1Dpcw 1D3d7s 1Dpdc 1D33a7 1Dded 1Dpf6",
    "1Dphf 1Ddfv 1Dpj2 1Dhx1 1D3dlz 1D3dmd 1D33bn 1D33bw 1Dpoh 1Dpok 1Dsda 1Ddij 1Dpsh 1Dpsb",
    "1Dpst 1Dgc3 1Dptd 1Dptf 1Dptp 1Dpuu 1D3ebg 1Dput 1Dpwd 1Dpyb 1Dq0d 1Dpwj 1Dq0t 1Dq1z 1Dq53",
    "1Dpxv 1Dq16 1Dq18 1Dq1o 1D3eie 1D3eqz 1D3emt 1Ddnv 1Dq9d 1Dq9f 1Dqae 1D3g0a 1Dqck 1D3f3g",
    "1Ddp9 1Ddpd 1D3f75 1D3ff6 1Ddpn 1Dqj4 1Dqjg 1Dqjr 1Dqjt 1Dqll 1Dqko 1Dqoe 1Dqn6 1Dqrd",
    "1Dqp4 1Dqqz 1Dqrq 1Ddsn 1Dqu9 1Dqv5 1Ddtl 1Dqxs 1Dqxv 1D3giv 1Dr13 1Dr1a 1Ddv9 1Dr22 1Daez",
    "1D3gz2 1D3h46 1Ddz2 1Ddzb 1Drds 1Drfx 1Drka 1Drpx 1D3hrc 1Drsb 1Drsx 1Drvf 1Drxz 1D3i9b",
    "1D2upw 1Ds0b 1Drzw 1Ds1c 1D2uvy 1Ds7o 1Dsag 1D3jki 1D3jl9 1Dsk4 1Dsmp 1Dsnl 1D3ju6 1Dsnv",
    "1Dsvs 1Dt07 1Dt08 1Dsxo 1Dt89 1Dt91 1D3ksa 1Dtjf 1Dej9 1Dtkn 1D3l2v 1Deli 1Dts3 1Diia",
    "1Dtur 1D3ltx 1D3lzu 1Depa 1Depi 1Du00 1D3mdm 1Der6 1D3mhi 1Du17 1Du17 1Du21 1D3mpi 1Du76",
    "1Deur 1Du95 1Ducn 1Dude 1Duf2 1Dez2 1D3nsg 1Dumq 1Duv4 1Dv0d 1Df66 1Df71 1Dv3b 1D3owe",
    "1Df7c 1D3oxx 1D3p5a 1D3p8x 1Dvcr 1Df9y 1Dveh 1Dvem 1Dvet 1Dvf3 1Dvfa 1Dvgb 1D3pxc" ]

/-- The combining classes other than zero. -/
def combiningClassLines : List String :=
  [ "lc k 6e 1 0 6g 1 3 64 1 0 6g 1 0 60 1 4 64 1 1 5m 1 3 64 1 1 5m 1 a 64 1 4 1 1 3 64 1 7 6e",
    "1 0 6o 1 0 6e 1 2 64 1 2 6e 1 1 64 2 2 6e 1 3 64 1 0 6e 1 0 6g 1 1 64 1 0 6e 1 0 6h 1 1 6i",
    "1 0 6h 1 1 6i 1 0 6h 1 c 6e 7o 4 6e 7e 0 64 1 3 6e 1 0 64 1 2 6e 1 0 66 1 0 64 1 5 6e 1 5",
    "64 1 1 6e 1 0 64 1 1 6e 1 0 66 1 0 6c 1 0 6e 1 0 a 1 0 b 1 0 c 1 0 d 1 0 e 1 0 f 1 0 g 1 0",
    "h 1 0 i 1 1 j 1 0 k 1 0 l 1 0 m 2 0 n 2 0 o 1 0 p 2 0 6e 1 0 64 2 0 i 21 7 6e 1 0 u 1 0 v",
    "1 0 w 1d 0 r 1 0 s 1 0 t 1 0 u 1 0 v 1 0 w 1 0 x 1 0 y 1 1 6e 1 1 64 1 4 6e 1 0 64 1 1 6e",
    "1 0 64 h 0 z 2u 6 6e 3 3 6e 1 0 64 1 0 6e 3 1 6e 2 0 64 1 1 6e 1 0 64 10 0 10 v 0 6e 1 0",
    "64 1 1 6e 1 0 64 1 1 6e 1 2 64 1 0 6e 1 1 64 1 0 6e 1 0 64 1 2 6e 1 0 64 1 0 6e 1 0 64 1 0",
    "6e 1 0 64 1 0 6e 1 0 64 1 1 6e 4h 6 6e 1 0 64 1 0 6e a 0 64 p 3 6e 2 8 6e 2 2 6e 2 4 6e 18",
    "2 64 1p 0 6e 1 2 64 1 3 6e 17 4 6e 1 4 64 1 d 6e 2 0 64 1 1 6e 1 0 64 1 1 6e 1 0 64 1 2 6e",
    "1 2 64 1 0 r 1 0 s 1 0 t 1 2 6e 1 0 64 1 1 6e 1 1 64 1 4 6e 1p 0 7 h 0 9 4 0 6e 1 0 64 1 1",
    "6e 2w 0 7 h 0 9 1d 0 6e 1q 0 7 h 0 9 33 0 7 h 0 9 33 0 7 h 0 9 3k 0 9 33 0 7 h 0 9 8 0 2c",
    "1 0 2j 2u 0 7 h 0 9 32 1 9 h 0 9 3h 0 9 32 1 2v 1 0 9 e 3 2z 31 1 3a 1 0 9 e 3 3e 25 1 64",
    "s 0 64 2 0 64 2 0 60 1k 0 3l 1 0 3m 2 0 3o 6 3 3m 3 0 3m 2 1 6e 1 0 9 2 1 6e 1r 0 64 35 0",
    "7 2 1 9 2b 0 64 k0 2 6e qd 1 9 v 0 9 4e 0 9 b 0 6e 5o 0 6c 40 0 66 1 0 6e 1 0 64 64 0 6e 1",
    "0 64 20 0 9 l 7 6e 3 0 64 1d 4 6e 1 5 64 1 1 6e 1 0 64 2 1 64 1 1 6e 1 1 64 1 4 6e 1 0 64",
    "1 3 6e 2u 0 7 g 0 9 13 0 6e 1 0 64 1 6 6e 1j 1 9 1n 0 7 c 1 9 1w 0 7 49 2 6e 2 0 1 1 4 64",
    "1 1 6e 1 3 64 1 0 6e 2 6 1 5 0 64 7 0 6e 4 1 6e 5j 1 6e 1 0 64 1 6 6e 1 0 64 1 1 6e 1 0 6i",
    "1 0 5y 1 0 64 1 0 5m 1 10 6e 1 0 6g 1 1 6c 1 0 64 1 0 62 1 0 6e 1 0 6h 1 0 64 1 0 6e 1 0",
    "64 k1 1 6e 1 1 1 1 3 6e 1 2 1 1 1 6e 5 0 6e 4 1 1 1 0 6e 1 0 64 1 0 6e 1 1 1 1 3 64 1 0 6e",
    "2db 2 6e 3y 0 9 2p v 6e ff 0 62 1 0 6c 1 0 6g 1 0 66 1 1 68 2y 1 8 n9x 0 6e 5 9 6e x 1 6e",
    "29 1 6e 7p 0 9 12 0 9 48 0 9 s h 6e 1m 2 64 12 0 9 2o 0 7 d 0 9 6o 0 6e 2 1 6e 1 0 64 3 1",
    "6e 6 1 6e 2 0 6e 1h 0 9 6v 0 9 fn5 0 q le 6 6e 1 6 64 1 1 6e r2 0 64 6b 0 64 46 4 6e 1ar 0",
    "64 2 0 6e 15 0 6e 1 0 1 1 0 64 5 0 9 4m 0 6e 1 0 64 fy 3 6e as 1 6e 4a 1 64 1 2 6e 1 0 64",
    "1 0 6e 1 3 64 1e 0 6e 1 0 64 1 0 6e 1 0 64 5d 0 9 16 0 9 f 0 9 1m 0 9 1 0 7 1y 2 6e 1d 1 9",
    "1r 0 7 25 0 9 a 0 7 2z 0 9 1 0 7 4z 0 7 1 0 9 29 1 7 h 0 9 p 6 6e 4 4 6e 5q 0 9 4 0 7 o 0",
    "6e 2s 0 9 1 0 7 70 0 9 1 0 7 3j 0 9 3b 0 9 1 0 7 38 0 9 7i 0 9 1 0 7 77 1 9 5 0 7 4d 0 9",
    "2c 0 9 j 0 9 2a 0 9 bq 0 9 77 0 7 2 1 9 2a 0 9 fa1 4 1 1o 6 6e xm 1 6 f59 0 1 43r 1 60 1 2",
    "1 4 0 6a 1 4 60 9 7 64 3 4 6e 1 1 64 v 3 6e 45 2 6e 2po 6 6e 2 g 6e 3 6 6e 2 1 6e 2 4 6e",
    "7a 6 6e ag 0 6e 1q 3 6e 15t 6 64 32 5 6e 1 0 7" ]

end Text
end AnalyticsQuery
