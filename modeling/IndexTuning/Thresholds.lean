namespace IndexTuning

structure Thresholds where
  rebuildPercent : Float := 30.0
  reorganizePercent : Float := 5.0
  minPageCount : Int := 100
  lowRead : Int := 100
  missingMinSeeks : Int := 50
  missingMinImpact : Float := 70.0
  similarity : Float := 0.95

end IndexTuning
