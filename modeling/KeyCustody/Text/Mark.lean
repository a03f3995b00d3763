import KeyCustody.Text.Runs

set_option autoImplicit false

namespace KeyCustody.Mark

def markText : String := "
  N300 M70 N113 M7 N107 M2d N1 M1 N1 M2 N1 M2 N1 M1 N48 Mb N30 M15 N10 M1 N65 M7 N2 M6 N2 M2 N1 M4
  N23 M1 N1e M1b N5b Mb N3a M9 N9 M1 N18 M4 N1 M9 N1 M3 N1 M5 N2b M3 N3b M9 N2a M18 N1 M21 N36 M3
  N1 M12 N1 M7 Na M2 N1d M3 N38 M1 N1 M7 N2 M2 N2 M3 N9 M1 Na M2 N1a M1 N2 M3 N38 M1 N1 M5 N4 M2
  N2 M3 N3 M1 N1e M2 N3 M1 Nb M3 N38 M1 N1 M8 N1 M3 N1 M3 N14 M2 N16 M6 N1 M3 N38 M1 N1 M7 N2 M2
  N2 M3 N7 M3 Na M2 N1e M1 N3b M5 N3 M3 N1 M4 N9 M1 N28 M5 N37 M1 N1 M7 N1 M3 N1 M4 N7 M2 Nb M2
  N1d M3 N38 M1 N1 M7 N1 M3 N1 M4 N7 M2 Nb M2 Nf M1 Nc M4 N37 M2 N1 M7 N1 M3 N1 M4 N9 M1 Na M2 N1d
  M3 N46 M1 N4 M6 N1 M1 N1 M8 N12 M2 N3d M1 N2 M7 Nc M8 N62 M1 N2 M9 Nb M7 N49 M2 N1b M1 N1 M1 N1
  M1 N4 M2 N31 M14 N1 M2 N5 Mb N1 M24 N9 M1 N64 M14 N17 M4 N4 M3 N1 M3 N2 M7 N3 M4 Nd Mc N1 M1 Na
  M4 N2bf M3 N3b2 M4 N1c M3 N1d M2 N1e M2 N40 M20 N9 M1 N2d M3 N1 M1 N75 M2 N22 M1 N76 Mc N4 Mc
  Ndb M5 N39 Ma N1 M1d N2 M1 N30 M2e N2 Mc N14 M5 N2f M11 N26 M9 Nc M3 N1e Md N38 Me N30 M14 N98
  M3 N1 M15 N4 M1 N6 M1 N2 M3 Nc6 M40 N2d0 M21 Nbfe M3 N8d M1 N60 M20 N22a M6 N69 M2 N75d4 M4 N1
  Ma N20 M2 N50 M2 N110 M1 N3 M1 N4 M1 N17 M5 N4 M1 N53 M2 N32 M12 N1a M12 Nd M1 N26 M8 N19 Md N2c
  M4 N2f Me N24 M1 N43 Me Nc M1 N8 M2 N2d M3 N32 M1 N1 M3 N2 M2 N5 M2 N1 M1 N29 M5 N5 M2 Nec M8 N1
  M2 N4f30 M1 N2e1 M10 N10 M10 N3cd M1 Ne2 M1 N95 M5 N686 M3 N1 M2 N5 M4 N28 M3 N4 M1 Na5 M2 N23d
  M4 N41 M5 N13d M2 N4d M6 N46 Mb N31 M4 N7a M3 N35 Mf N29 M1 N2 M2 Na M4 N2d Mb N7 M1 N3d M3 N24
  Me N10 M2 N2c M1 Nc M3 N30 Me N8 M4 N1 M2 N5c Mc N6 M1 N2 M1 N9d Mc N15 M4 N37 M2 N1 M7 N2 M2 N2
  M3 N9 M1 Na M2 N2 M7 N3 M5 N43 M9 N1 M1 N2 M1 N1 M4 N1 M5 N1 M1 Ne M2 N52 M12 N17 M1 N51 M14 Neb
  M7 N2 M9 N1b M2 N52 M11 N6a Md N65 Mf N100 Mf Nf5 M6 N1 M2 N2 M4 N1 M1 N1 M2 N8d M7 N2 M7 N3 M1
  N1c Ma N28 M7 N1 M4 N8 M1 N9 Mb N2e M10 Nc6 M8 Nc7 M8 N1 M8 N52 M16 N1 Me N7a M6 N3 M1 N1 M2 N1
  M7 N1 M1 N42 M5 N1 M2 N1 M5 N15b M4 N9 M2 N1 M1 N30 M7 N3 M5 N17 M1 N14e5 M1 N6 Mf N2cc8 M12
  N9c0 M5 N3b M7 N418 M1 N1 M37 N7 M4 N51 M1 Nb M2 N4cab M2 N1261 M2e N2 M17 N21e M5 N3 M6 N8 M8
  N2 M7 N1e M4 N94 M3 N7bb M37 N4 M32 N8 M1 Ne M1 N16 M5 N1 Mf N550 M7 N1 M11 N2 M7 N1 M2 N1 M5
  N64 M1 Na0 M7 N177 M1 N3d M4 N1fc M4 Nfe M2 Nf3 M1 N2 M1 N7 M2 N5 M1 N1da M7 N6d M7 Nc17b5 Mf0
  N2fe10"

def markRuns : Runs Bool :=
  .ofText (fun run => run.name = "M") markText

def isMark (c : Char) : Bool :=
  (markRuns.value? c).getD false

end KeyCustody.Mark
