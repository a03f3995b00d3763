import KeyCustody.Text.Runs

set_option autoImplicit false

namespace KeyCustody.Quoted

def shownText : String := "
  H20 S5f H22 Sc H1 S252 H70 S8 H2 S6 H4 S7 H1 S1 H1 S14 H1 Se0 H7 Sa6 H1 S26 H2 S32 H2 S3 H2e S1
  H1 S1 H2 S1 H2 S1 H9 S1b H4 S6 H11 Sa Hb S1 H1 S2e H15 S10 H1 S65 H8 S1 H6 S2 H2 S1 H4 S20 H2 S1
  H1 S1e H1d S59 Hb S1 He S2b H9 S7 H3 S18 H4 S1 H9 S1 H3 S1 H7 Sf H1 S19 H5 S1 H1 Sb H5 S20 H10
  S2a H39 S37 H1 S1 H1 S4 H8 S4 H1 S3 H7 Sa H2 S1d H1 S2 H1 S8 H2 S2 H2 S16 H1 S7 H1 S1 H3 S4 H3
  S1 H1 S2 H6 S2 H2 S2 H1 S1 Hd S2 H1 S3 H4 S18 H5 S1 H1 S6 H4 S2 H2 S16 H1 S7 H1 S2 H1 S2 H1 S2
  H4 S3 H18 S4 H1 S1 H7 Sa H2 S3 H1 S1 Hc S1 H1 S9 H1 S3 H1 S16 H1 S7 H1 S2 H1 S5 H3 S4 H8 S1 H1
  S2 H3 S1 Hf S2 H4 Sc H7 S1 H8 S2 H1 S8 H2 S2 H2 S16 H1 S7 H1 S2 H1 S5 H3 S1 H2 S1 H6 S2 H2 S2 Hf
  S2 H1 S3 H4 S12 Hb S1 H1 S6 H3 S3 H1 S4 H3 S2 H1 S1 H1 S2 H3 S2 H3 S3 H3 Sc H5 S1 H1 S2 H3 S3 H1
  S3 H3 S1 H15 S15 H6 S3 H1 S8 H1 S3 H1 S17 H1 S10 H3 S1 H3 S4 H13 S3 H1 S2 H2 S2 H4 Sa H7 Sa H1
  Sb H1 S3 H1 S17 H1 Sa H1 S5 H3 S2 H2 S1 H1 S2 H17 S3 H1 S2 H4 Sa H1 S3 He Sb H1 S3 H1 S29 H2 S1
  H1 S2 H5 S3 H1 S3 H1 S2 H4 S3 H1 Sa H4 S1a H2 S2 H1 S12 H3 S18 H1 S9 H1 S1 H2 S7 H9 S2 H6 S7 H7
  Sa H2 S3 Hc S30 H1 S2 Hb S8 H8 Sd H25 S2 H1 S1 H1 S5 H1 S18 H1 S1 H1 Sa H1 S2 H9 S1 H2 S5 H1 S1
  H9 Sa H2 S4 H20 S18 H2 S1b H1 S1 H1 S1 H1 Se H1 S24 H12 S1 H5 S1 H2 S5 H31 S8 H1 S6 H1 Sd H25
  S2d H4 S1 H6 S1 H2 S2 H2 S19 H2 S4 H3 S10 H4 Sd H1 S2 H2 S6 H1 Sf H1 S28 H1 S1 H5 S1 H2 S179 H1
  S4 H2 S7 H1 S1 H1 S4 H2 S29 H1 S4 H2 S21 H1 S4 H2 S7 H1 S1 H1 S4 H2 Sf H1 S39 H1 S4 H2 S43 H5
  S1d H3 S1a H6 S56 H2 S6 H2 S280 H1 S1c H3 S59 H7 S12 Hd S13 H3 S2 H9 S12 He Sd H1 S3 Hf S34 H2
  S1 H7 S8 H1 S2 Hb S9 H3 Sa H6 Sa H6 Sb H5 Sa H6 S59 H7 S5 H2 S22 H1 S1 H5 S46 Ha S1f H4 S4 H2 S3
  H4 S2 H1 S6 H7 S1 H3 S2a H2 S5 Hb S2c H4 S1a H6 Sb H3 S39 H2 S2 H3 S38 H1 S1 H9 S1 H1 S2 H8 S6
  Hd Sa H6 Sa H6 Se H56 S30 Ha S4 H3 S8 H1 S1d H9 Sc H2 S20 H4 S2 H6 S38 H1 S1 H2 S3 H1 S1 Hd S30
  H8 S2 H5 Sf H3 S3e H5 S2b H2 Sb Hb S1 Hd S1 H7 S4 H1 S6 H1 S3 H2 S1 H5 Sc0 H40 S116 H2 S6 H2 S26
  H2 S6 H2 S8 H1 S1 H1 S1 H1 S1 H1 S1f H2 S35 H1 Sf H1 Se H2 S6 H1 S13 H2 S3 H1 S9 H11 S18 H8 S2f
  H11 S2 H2 S1b H1 Sd H3 S22 H3e S8c H4 S29a H16 Sb H15 S714 H2 S179 H3 S2 H5 S2d H1 S1 H5 S1 H2
  S38 H7 S2 Hf S17 H9 S7 H1 S7 H1 S7 H1 S7 H1 S7 H1 S7 H1 S7 H1 S7 H21 S5e H22 S1a H1 S59 Hc Sd6
  H1a S10 H1 S29 H6 S10 H1 S56 H4 S65 H5 S2b H1 S5e H1 S56 H9 S30 H1 S726d H3 S37 H9 S15c H14 S2f
  H4 S1 Ha S20 H2 S50 H2 S6 H8 Sdd H14 S11 H1 S3 H1 S4 H1 S19 H2 S5 H4 Sa H6 S38 H8 S44 Ha Sc H18
  Sd H1 S26 H8 S19 Hb S1 Hc S1e H6 S30 H1 S2 H4 S2 H2 S2 H1 Sd H1 Sb H4 S7 H1 S19 H1 S29 H6 S2 H2
  S2 Hb S3 H1 S8 H1 S1 H2 Sa H2 S20 H1 S33 H1 S1 H3 S2 H2 S5 H2 S1 H1 S1 H18 S11 H2 S8 Hb S6 H2 S6
  H2 S6 H9 S7 H1 S7 H1 S3c H4 S75 H1 S2 H1 S4 H3 Sa H6 S2ba4 Hc S17 H4 S31 H2104 S16e H2 S6a H26
  S7 Hc S5 H5 S1 H1 S18 H1 S5 H1 S1 H1 S2 H1 S2 H1 S28a H20 S10 H10 Sa H16 S23 H1 S13 H1 S4 H4 S5
  H1 S87 H4 S9d H2 S1f H3 S6 H2 S6 H2 S6 H2 S3 H3 S7 H1 S7 Hd S2 H2 Sc H1 S1a H1 S13 H1 S2 H1 Sf
  H2 Se H22 S7b H5 S3 H4 S2d H3 S58 H1 Sd H3 S1 H2f S2d H83 S1d H3 S31 H10 S1b H4 S24 H9 S1e H5
  S26 Ha S1e H1 S25 H4 Se H2a S9e H2 Sa H6 S24 H4 S24 H4 S28 H8 S34 Hb Sc H1 Sf H1 S7 H1 S2 H1 Sb
  H1 Sf H1 S7 H1 S2 H3 S34 Hc S137 H9 S16 Ha S8 H18 S6 H1 S2a H1 S9 H45 S6 H2 S1 H1 S2c H1 S2 H3
  S1 H2 S17 H1 S48 H8 S9 H30 S13 H1 S2 H5 S21 H3 S1b H5 S1b H26 S38 H4 S14 H2 S2f Hf S4 H1 S3 H1
  S1d Ha S9 H7 S9 H7 S40 H20 S25 H6 Sc H9 S36 H3 S1d H2 S1b H5 S1a H7 S4 Hc S7 H50 S49 H37 S33 Hd
  S33 H7 S2a Hc Sa H6 S26 H8 S18 H8 S2 Hd0 S1f H1 S2a H3 S1 H2 S2 H10 S6 H8 S9 H27 S28 H8 S16 Hb
  S9 H16 S12 H4 S4 H26 S1c H14 S17 H9 S1 H1 S36 Hf S7 H4 S1e H1 S2 H2 S1 Hc S31 H4 S2 H2 S2 H1 S4
  He S19 H7 Sa H9 S24 H5 S1 H9 S12 H8 S23 H1 S3 Hb S34 H9 S1 H1 S8 H4 S2 H1 S10 H1 S14 Hb S12 H1
  S1c H3 S2 H4 S6 H1 S2 H3f S7 H1 S1 H1 S4 H1 Sf H1 Sb H6 S2f H1 S3 Hd Sa H8 S2 H1 S8 H2 S2 H2 S16
  H1 S7 H1 S2 H1 S5 H3 S1 H1 S1 H1 S4 H2 S2 H2 S2 H3 S1 Hc S7 H1c Sa H1 S1 H2 S1 H1 S26 H1 S1 H1
  S2 Hf S1 H1 S2 H3 S1 H1 S3 H1 S2 H27 S38 H8 S2 H3 S1 H1 S15 H1 S1 H1 S3 H1e S30 H1 S2 H6 S1 H1
  S2 H1 S1 H2 S1 H2 S4 H8 Sa Ha6 S2f H1 S2 H6 S4 H2 S1 H2 S1b H24 S33 H8 S2 H1 S1 H2 S4 Hb Sa H6
  Sd H13 S2b H1 S1 H1 S2 H8 S2 H6 Sa H6 S14 H1c S1b H3 S1 H1 S2 H4 S1 H9 S17 Hb9 S2f H9 S1 H2 S1
  H64 S53 Hc S8 H2 S1 H2 S8 H1 S2 H1 S18 H1 S5 H1 S2 H6 S4 H1 S3 H9 Sa H46 S8 H2 S2a H8 S4 H1 S4
  H1b S1 Ha S28 H6 S2 H4 S8 H9 S1 H6 S2 H3 S2e Hd S1 H2 S9 Hd S49 H7 Sa H57 S1 H3 S1 H1 S1 H58 S22
  He Sa H6 S9 H1 S26 He S1 H1 S6 Ha S1d H3 S20 H19 S1 H7 S1 H2 S1 H4b S7 H1 S2 H1 S26 H15 S1 H9 Sa
  H6 S6 H1 S2 H1 S25 H4 S2 H1 S1 H1 S1 H7 Sa H6 S2c H4 Sa Hf6 S13 H2 S4 H9 Sf H1 S24 H8 S2 H3 S17
  H56 S1 Hf S32 Hd S39b H66 S6f H1 S5 Hb Sc4 Ha4c S63 Hd S430 H11 S6 H19 Sf9b H5 S247 H1ab9 S1e Hc
  S3 H3 Sa H6c6 S239 H7 S1f H1 Sa H4 S51 H1 Sa H6 S1e H7 S1 Ha S30 H7 Sf Ha Sa H1 S7 H1 S15 H5 S13
  H1b0 S3a Hc6 S5b H5 S19 H2 S19 H2c S4b H5 S38 Hb Sd H40 S4 He S5 H9 S1cd6 H29 S20 H61 S73 H21fd
  S4 H1 S7 H1 S2 H1 S123 Hf S1 H1d S3 H2 S1 He S4 H8 S18c H904 S6b H5 Sd H3 S9 H7 Sa H2 S1 H2 S1
  Hf60 Sfd H3 S1b4 H6 S17 Hf S11 H5f S74 H3c Sf6 Ha S27 H2 S3c H5 S3 H16 S2 H7 S1e H4 S3d H15 S42
  H3 S1 H7a S14 Hc S14 Hc S57 H9 S19 H87 S55 H1 S47 H1 S2 H2 S1 H2 S2 H2 S4 H1 Sc H1 S1 H1 S7 H1
  S41 H1 S4 H2 S8 H1 S7 H1 S1c H1 S4 H1 S5 H1 S1 H3 S7 H1 S154 H2 S124 H2 S232 H37 S4 H32 S8 H1 Se
  H1 S7 H474 S1f H6 S6 H105 S3e H92 S2d Ha S7 H2 Sa H4 S2 H140 S1e H12 S2c H4 Sa H5 S1 H1d0 S1c H4
  Sa Hd6 S1e H2 Sb H4 S1 Hc0 S1f H1 S3 H1 S2 H1 S7 H2 S5 H9 S2 He0 S7 H1 S4 H1 S2 H1 Sf H1 Sc5 H2
  S9 H30 S44 H7 S1 H4 Sa H4 S2 H311 S44 H4c S3d Hc2 S4 H1 S1b H1 S2 H1 S1 H2 S1 H1 Sa H1 S4 H1 S1
  H1 S1 H6 S1 H4 S1 H1 S1 H1 S1 H1 S3 H1 S2 H1 S1 H2 S1 H1 S1 H1 S1 H1 S1 H1 S1 H1 S2 H1 S1 H2 S4
  H1 S7 H1 S4 H1 S4 H1 S1 H1 Sa H1 S11 H5 S3 H1 S5 H1 S11 H34 S2 H10e S2c H4 S64 Hc Sf H2 Sf H1 Sf
  H1 S25 Ha Sae H38 S1d Hd S2c H4 S9 H7 S2 He S6 H9a S3d9 H3 S11 H3 Sd H3 Sda H6 Sc H4 S1 Hf Sc H4
  S38 H8 Sa H6 S28 H8 S1e H2 Sc H4 S2 He S9 H27 S158 H8 Se H2 Sd H3 Sb H3 S39 H1 S1 H4 S10 H2 Sc
  H4 Sa H7 S93 H1 S67 H405 Sa6e0 H20 S111e H2 S168e H2 S1d31 Hf S26e H9a2 S21e H5e2 S134b H5 S212a
  Hdcb86"

def shownRuns : Runs Bool :=
  .ofText (fun run => run.name = "S") shownText

def isVisible (c : Char) : Bool :=
  (shownRuns.value? c).getD false

end KeyCustody.Quoted
