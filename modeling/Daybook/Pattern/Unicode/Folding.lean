import Daybook.Pattern.Unicode.Table

/-!
# Simple case folding

Code points that differ in case alone form small orbits. Each orbit is known by its least member;
the table says for every other member how far above that it lies.
-/

namespace Daybook.Pattern.Unicode

/-- Runs of code points in base 36: the first, how many there are, the step between them, and the
distance of each from the least member of its orbit. -/
def foldingRuns : List String :=
  ["2p.q.1.w 68.n.1.w 6w.7.1.w 75.o.2.1 8j.3.2.1 8q.8.2.1 97.n.2.1 ag.1.1.3d ai.3.2.1 an.1.1.8c",
  "ar.2.2.1 aw.2.4.1 b6.1.1.1 bd.1.1.1 bl.3.2.1 bs.1.1.1 bx.1.1.1 c0.2.4.1 c6.1.1.1 c9.2.4.1",
  "cl.1.1.1 cm.1.1.2 co.1.1.1 cp.1.1.2 cr.1.1.1 cs.1.1.2 cu.8.2.1 d9.1.1.27 db.9.2.1 du.1.1.1",
  "dv.1.1.2 dx.b.4.1 dy.1.1.2p dz.1.1.1k e3.f.4.1 f4.1.1.3m f9.4.4.1 fw.1.1.1 fx.1.1.4j g2.1.1.1",
  "g3.1.1.5f g7.5.2.1 gj.1.1.5u gk.1.1.5q gm.2.1.5p gp.1.1.5m gr.1.1.5n gw.1.1.5p gz.1.1.5r",
  "h4.1.1.5t h5.1.1.5v hb.1.1.5v he.1.1.5x hh.1.1.5y hs.1.1.62 hv.1.1.62 i0.1.1.62 i1.1.1.1x",
  "i2.2.1.61 i4.1.1.1z ia.1.1.63 oh.2.2.1 on.1.1.1 pl.1.1.2c po.1.1.kn q4.1.1.12 q5.3.1.11",
  "q9.8.1.w qh.1.1.38 qi.2.1.w qk.1.1.lj ql.8.2.w qm.2.2.w qq.1.1.v qs.4.2.w r0.1.1.1s r1.2.1.1r",
  "r4.1.1.1q r5.1.1.1l r9.1.1.1b ra.1.1.1i rb.1.1.8 rd.c.2.1 s0.1.1.2e s1.1.1.28 s3.1.1.38",
  "s4.1.1.2k s5.1.1.2o s8.1.1.1 s9.1.1.7 sb.1.1.1 sd.3.1.3m ts.w.1.w uo.g.1.28 v5.h.2.1 wb.r.2.1",
  "xu.7.2.1 y7.1.1.f y9.1c.2.1 129.12.1.1c 3y0.6.1.8 5mo.1.1.4tq 5mp.1.1.4tp 5mq.1.1.4tg",
  "5mr.2.1.4te 5mt.1.1.4tf 5mu.1.1.4t8 5mv.1.1.4rp 5my.1.1.1 5n4.17.1.2bk 5od.3.1.2bk 5xd.23.2.1",
  "61n.1.1.1n 61q.1.1.5vj 61t.1c.2.1 64o.8.1.8 654.6.1.8 65k.8.1.8 660.8.1.8 66g.6.1.8 66x.4.2.8",
  "67c.8.1.8 688.8.1.8 68o.8.1.8 694.8.1.8 69k.2.1.8 69m.2.1.22 69o.1.1.9 69q.1.1.5mh 6a0.4.1.2e",
  "6a4.1.1.9 6ab.1.1.5kz 6ag.2.1.8 6ai.2.1.2s 6ar.1.1.5kj 6aw.2.1.8 6ay.2.1.34 6b0.1.1.7",
  "6bc.2.1.3k 6be.2.1.3i 6bg.1.1.9 6jq.1.1.5tp 6ju.1.1.6hr 6jv.1.1.6ee 6ku.1.1.s 6ls.g.1.g",
  "6mc.1.1.1 79s.q.1.q 8q8.1c.1.1c 8rl.1.1.1 8rm.1.1.8af 8rn.1.1.2xy 8ro.1.1.89z 8rp.1.1.8bv",
  "8rq.1.1.8bs 8rs.3.2.1 8rx.1.1.8bg 8ry.1.1.8al 8rz.1.1.8bj 8s0.1.1.8bi 8s3.1.1.1 8s6.1.1.1",
  "8se.2.1.8cf 8sh.1e.2.1 8vg.2.2.1 8vn.1.1.1 8w0.12.1.5ls 8x3.1.1.5ls 8x9.1.1.5ls wu9.c.4.1",
  "wub.2.4.1 wui.1.1.r7m wuj.1.1.r7n wun.8.4.1 ww1.e.2.1 x0j.k.4.1 x0l.3.4.1 x11.f.4.1 x2y.2.2.1",
  "x31.1.1.r9g x33.5.2.1 x3g.1.1.1 x3h.1.1.wmg x3l.2.2.1 x3r.a.2.1 x4a.2.4.wn8 x4b.1.1.wnj",
  "x4c.1.1.wnf x4d.1.1.wn5 x4g.1.1.wlu x4h.1.1.wmi x4i.1.1.wlx x4l.8.2.1 x50.1.1.1c x51.1.1.wn7",
  "x52.1.1.raw x54.2.2.1 x57.1.1.wo7 x59.8.2.1 x5o.1.1.wu9 x6e.1.1.1 xub.1.1.ps xv4.28.1.tzk",
  "1dl2.1.1.1 1ef5.q.1.w 1fe0.14.1.14 1fiw.10.1.14 1fo7.j.2.13 1fo8.a.4.13 1foa.2.4.13",
  "1fom.3.4.13 1fp2.1.1.13 1h34.1f.1.1s 1h80.m.1.w 1jgg.w.1.w 20dc.w.1.w 20fv.p.1.r 2oma.y.1.y"]

/-- Reads numbers in base 36 that are parted by points and blanks, in groups. Gives the groups in
reverse, each in reverse. -/
def readGroups (number : Nat) (group : List Nat) (done : List (List Nat)) :
    List Char → List (List Nat)
  | [] => (number :: group) :: done
  | ' ' :: cs => readGroups 0 [] ((number :: group) :: done) cs
  | '.' :: cs => readGroups 0 (number :: group) done cs
  | c :: cs => readGroups (number * 36 + digitValue c) group done cs

/-- One run of code points that lie at the same distance from the least members of their orbits. -/
structure FoldingRun where
  first : Nat
  count : Nat
  step : Nat
  distance : Nat

/-- The run that a group of four numbers describes. -/
def FoldingRun.ofGroup? : List Nat → Option FoldingRun
  | [distance, step, count, first] => some ⟨first, count, step, distance⟩
  | _ => none

/-- All runs. -/
def foldings : List FoldingRun :=
  (readGroups 0 [] [] (String.intercalate " " foldingRuns).toList).filterMap FoldingRun.ofGroup?

/-- The members of a run, each with the least member of its orbit. -/
def FoldingRun.members (r : FoldingRun) : List (Nat × Nat) :=
  (List.range r.count).map (fun i => (r.first + i * r.step, r.first + i * r.step - r.distance))

end Daybook.Pattern.Unicode
