import KeyCustody.Text.Runs

set_option autoImplicit false

namespace KeyCustody.Domain

inductive Fate where
  | kept
  | refused
  | ignored
  | raised (amount : Nat)
  | lowered (amount : Nat)
  | paired
  | replaced (text : List Char)

-- Runs that are kept (`V`), refused (`X`), ignored (`I`), raised (`U`), lowered (`D`), paired
-- (`A`), or replaced by the characters that are written with them (`M`).
def fateText : String := "
  V41 U1a.20 V25 X20 M1.20 V7 M1.20.308 V1 M1.61 V2 I1 V1 M1.20.304 V2 D2.80 M1.20.301 M1.3bc V2
  M1.20.327 M1.31 M1.6f V1 M1.31.2044.34 M1.31.2044.32 M1.33.2044.34 V1 U17.20 V1 U7.20 V21 A30
  M1.69.307 V1 M2.69.6a A4 V1 A6 M2.6c.b7 A8 M1.2bc.6e A2e M1.ff A6 M1.73 V1 M1.253 A4 M1.254
  M1.188 V1 U2.cd M1.18c V2 M1.1dd M1.259 M1.25b M1.192 V1 M1.260 M1.263 V1 M1.269 M1.268 M1.199
  V3 M1.26f M1.272 V1 M1.275 A6 M1.280 M1.1a8 V1 M1.283 V2 M1.1ad V1 M1.288 M1.1b0 V1 U2.d9 A4
  M1.292 M1.1b9 V3 M1.1bd V7 M3.64.17e M3.6c.6a M3.6e.6a A10 V1 A12 V1 M3.64.7a M1.1f5 V1 M1.195
  M1.1bf A28 M1.19e V1 A12 V6 M1.2c65 M1.23c V1 M1.19a M1.2c66 V2 M1.242 V1 M1.180 M1.289 M1.28c
  Aa V60 M1.68 M1.266 M1.6a M1.72 M1.279 M1.27b M1.281 M1.77 M1.79 V1f M1.20.306 M1.20.307
  M1.20.30a M1.20.328 M1.20.303 M1.20.30b V2 M1.263 M1.6c M1.73 M1.78 M1.295 V5b D2.40 V1 M1.313
  M1.308.301 M1.3b9 V9 I1 V20 A4 M1.2b9 V1 M1.377 V1 X2 M1.20.3b9 V3 M1.3b M1.3f3 X4 M1.20.301
  M1.20.308.301 M1.3ac M1.b7 U3.25 X1 M1.3cc X1 U2.3f V1 U11.20 X1 U9.20 V23 M1.3d7 M1.3b2 M1.3b8
  M1.3c5 M1.3cd M1.3cb M1.3c6 M1.3c0 V1 A18 M1.3ba M1.3c1 M1.3c3 V1 M1.3b8 M1.3b5 V1 M1.3f8 V1
  M1.3c3 M1.3fb V2 D3.82 U10.50 U20.20 V30 A22 V8 A36 M1.4cf Ae V1 A60 X1 U26.30 X2 V2e M1.565.582
  V3 X2 V3 X1 V37 X8 V1b X4 V6 X11 V16 X1 V58 M1.627.674 M1.648.674 M1.6c7.674 M1.64a.674 V64 X1
  V30 X2 V3b X2 V65 Xe V3b X2 V31 X2 Vf X1 V1c X2 V1 X1 Vb X5 V20 X7 V4b X1 V75 M1.915.93c
  M1.916.93c M1.917.93c M1.91c.93c M1.921.93c M1.922.93c M1.92b.93c M1.92f.93c V24 X1 V8 X2 V2 X2
  V16 X1 V7 X1 V1 X3 V4 X2 V9 X2 V2 X2 V4 X8 V1 X4 M1.9a1.9bc M1.9a2.9bc X1 M1.9af.9bc V4 X2 V19
  X2 V3 X1 V6 X4 V2 X2 V16 X1 V7 X1 V1 M1.a32.a3c X1 V1 M1.a38.a3c X1 V2 X2 V1 X1 V5 X4 V2 X2 V3
  X3 V1 X7 M1.a16.a3c M1.a17.a3c M1.a1c.a3c V1 X1 M1.a2b.a3c X7 V11 Xa V3 X1 V9 X1 V3 X1 V16 X1 V7
  X1 V2 X1 V5 X2 Va X1 V3 X1 V3 X2 V1 Xf V4 X2 Vc X7 V7 X1 V3 X1 V8 X2 V2 X2 V16 X1 V7 X1 V2 X1 V5
  X2 V9 X2 V2 X2 V3 X7 V3 X4 M1.b21.b3c M1.b22.b3c X1 V5 X2 V12 Xa V2 X1 V6 X3 V3 X1 V4 X3 V2 X1
  V1 X1 V2 X3 V2 X3 V3 X3 Vc X4 V5 X3 V3 X1 V4 X2 V1 X6 V1 Xe V15 X5 Vd X1 V3 X1 V17 X1 V10 X2 V9
  X1 V3 X1 V4 X7 V2 X1 V3 X1 V2 X2 V4 X2 Va X7 V16 X1 V3 X1 V17 X1 Va X1 V5 X2 V9 X1 V3 X1 V4 X7
  V2 X5 V3 X1 V4 X2 Va X1 V3 Xc Vd X1 V3 X1 V33 X1 V3 X1 V6 X4 V10 X2 V1a X1 V3 X1 V12 X3 V18 X1
  V9 X1 V1 X2 V7 X3 V1 X4 V6 X1 V1 X1 V8 X6 Va X2 V3 Xc V32 M1.e4d.e32 V7 X4 V1d X25 V2 X1 V1 X1
  V5 X1 V18 X1 V1 X1 Vc M1.ecd.eb2 Va X2 V5 X1 V1 X1 V7 X1 Va X2 M1.eab.e99 M1.eab.ea1 V2 X20 Vc
  M1.f0b V36 M1.f42.fb7 V4 X1 V4 M1.f4c.fb7 V4 M1.f51.fb7 V4 M1.f56.fb7 V4 M1.f5b.fb7 Vc
  M1.f40.fb5 V3 X4 V2 M1.f71.f72 V1 M1.f71.f74 M1.fb2.f80 M1.fb2.f71.f80 M1.fb3.f80 M1.fb3.f71.f80
  V7 M1.f71.f80 V11 M1.f92.fb7 V4 X1 V4 M1.f9c.fb7 V4 M1.fa1.fb7 V4 M1.fa6.fb7 V4 M1.fab.fb7 Vc
  M1.f90.fb5 V3 X1 Vf X1 Vd X25 Va0 U26.1c60 X1 M1.2d27 X5 M1.2d2d X2 V2c M1.10dc V62 I2 Ve8 X1 V4
  X2 V7 X1 V1 X1 V4 X2 V29 X1 V4 X2 V21 X1 V4 X2 V7 X1 V1 X1 V4 X2 Vf X1 V39 X1 V4 X2 V43 X2 V20
  X3 V1a X6 V56 X2 D6.8 X2 V280 X1 V1c X3 V59 X7 V16 X9 V18 X9 V14 Xc Vd X1 V3 X1 V2 Xc V34 I2 V28
  X2 Va X6 Va X6 Vb I5 Va X6 V59 X7 V2b X5 V46 Xa V1f X1 Vc X4 Vc X4 V1 X3 V2a X2 V5 Xb V2c X4 V1a
  X6 Vb X3 V3e X2 V41 X1 V1d X2 Vb X6 Va X6 Ve X2 V2e X2 Vc X14 V4d X1 Va6 X8 V3c X3 Vf X3 V33
  M1.432 M1.434 M1.43e D2.1842 M1.442 M1.44a M1.463 M1.a64b M1.1c8a V1 X5 D2b.bc0 X2 D3.bc0 V8 X8
  V2b X5 V2c M1.61 M1.e6 M1.62 V1 D2.1ccc M1.1dd D8.1ccc V1 M1.6f M1.223 M1.70 M1.72 D2.1ccc M1.77
  M1.61 D2.1af4 M1.1d02 M1.62 D2.1ce4 M1.259 D2.1af0 M1.67 V1 M1.6b M1.6d M1.14b M1.6f M1.254
  D2.3e M1.70 D2.1ce3 M1.1d1d M1.26f M1.76 M1.1d25 D3.19ab D2.199a M1.69 M1.72 D2.1cef D2.19b4
  M1.3c1 D2.19a3 Vd M1.43d V22 M1.252 M1.63 M1.255 M1.f0 M1.25c M1.66 M1.25f M1.261 M1.265 D3.1b3c
  M1.1d7b M1.29d M1.26d M1.1d85 M1.29f M1.271 M1.270 D4.1b3c M1.278 D2.1b31 M1.1ab D2.1b2d M1.1d1c
  D2.1b2e M1.7a D3.1b2c M1.3b8 V40 A96 V4 M1.61.2be M1.1e61 V2 M1.df V1 A60 V8 D8.8 V6 X2 D6.8 X2
  V8 D8.8 V8 D8.8 V6 X2 D6.8 X2 V8 X1 M1.1f51 X1 M1.1f53 X1 M1.1f55 X1 M1.1f57 V8 D8.8 V1 M1.3ac
  V1 M1.3ad V1 M1.3ae V1 M1.3af V1 M1.3cc V1 M1.3cd V1 M1.3ce X2 M1.1f00.3b9 M1.1f01.3b9
  M1.1f02.3b9 M1.1f03.3b9 M1.1f04.3b9 M1.1f05.3b9 M1.1f06.3b9 M1.1f07.3b9 M1.1f00.3b9 M1.1f01.3b9
  M1.1f02.3b9 M1.1f03.3b9 M1.1f04.3b9 M1.1f05.3b9 M1.1f06.3b9 M1.1f07.3b9 M1.1f20.3b9 M1.1f21.3b9
  M1.1f22.3b9 M1.1f23.3b9 M1.1f24.3b9 M1.1f25.3b9 M1.1f26.3b9 M1.1f27.3b9 M1.1f20.3b9 M1.1f21.3b9
  M1.1f22.3b9 M1.1f23.3b9 M1.1f24.3b9 M1.1f25.3b9 M1.1f26.3b9 M1.1f27.3b9 M1.1f60.3b9 M1.1f61.3b9
  M1.1f62.3b9 M1.1f63.3b9 M1.1f64.3b9 M1.1f65.3b9 M1.1f66.3b9 M1.1f67.3b9 M1.1f60.3b9 M1.1f61.3b9
  M1.1f62.3b9 M1.1f63.3b9 M1.1f64.3b9 M1.1f65.3b9 M1.1f66.3b9 M1.1f67.3b9 V2 M1.1f70.3b9
  M1.3b1.3b9 M1.3ac.3b9 X1 V1 M1.1fb6.3b9 D2.8 M1.1f70 M1.3ac M1.3b1.3b9 M1.20.313 M1.3b9
  M1.20.313 M1.20.342 M1.20.308.342 M1.1f74.3b9 M1.3b7.3b9 M1.3ae.3b9 X1 V1 M1.1fc6.3b9 M1.1f72
  M1.3ad M1.1f74 M1.3ae M1.3b7.3b9 M1.20.313.300 M1.20.313.301 M1.20.313.342 V3 M1.390 X2 V2 D2.8
  M1.1f76 M1.3af X1 M1.20.314.300 M1.20.314.301 M1.20.314.342 V3 M1.3b0 V4 D2.8 M1.1f7a M1.3cd
  M1.1fe5 M1.20.308.300 M1.20.308.301 M1.60 X2 M1.1f7c.3b9 M1.3c9.3b9 M1.3ce.3b9 X1 V1 M1.1ff6.3b9
  M1.1f78 M1.3cc M1.1f7c M1.3ce M1.3c9.3b9 M1.20.301 M1.20.314 X1 Mb.20 I1 V2 X2 V1 M1.2010 V5
  M1.20.333 Vc X3 V1 X7 M1.20 V3 M1.2032.2032 M1.2032.2032.2032 V1 M1.2035.2035 M1.2035.2035.2035
  V4 M1.21.21 V1 M1.20.305 V8 M1.3f.3f M1.3f.21 M1.21.3f Vd M1.2032.2032.2032.2032 V7 M1.20 I5 X5
  I6 M1.30 M1.69 X2 D6.2040 M1.2b M1.2212 M1.3d D2.2055 M1.6e Da.2050 M1.2b M1.2212 M1.3d D2.2065
  X1 M1.61 M1.65 M1.6f M1.78 M1.259 M1.68 D4.202b M1.70 D2.2028 X3 V8 M1.72.73 V19 Xe V21 Xf
  M1.61.2f.63 M1.61.2f.73 M1.63 M1.b0.63 V1 M1.63.2f.6f M1.63.2f.75 M1.25b V1 M1.b0.66 D2.20a3
  M3.68 M1.127 M2.69 M2.6c V1 M1.6e M1.6e.6f V2 D3.20a9 M2.72 V2 M1.73.6d M1.74.65.6c M1.74.6d V1
  M1.7a V1 M1.3c9 V1 M1.7a V1 M1.6b M1.e5 D2.20ca V1 M2.65 M1.66 M1.214e M1.6d M1.6f D4.1b65 M1.69
  V1 M1.66.61.78 M1.3c0 M2.3b3 M1.3c0 M1.2211 V4 M2.64 M1.65 D2.20df V6 M1.31.2044.37
  M1.31.2044.39 M1.31.2044.31.30 M1.31.2044.33 M1.32.2044.33 M1.31.2044.35 M1.32.2044.35
  M1.33.2044.35 M1.34.2044.35 M1.31.2044.36 M1.35.2044.36 M1.31.2044.38 M1.33.2044.38
  M1.35.2044.38 M1.37.2044.38 M1.31.2044 M1.69 M1.69.69 M1.69.69.69 M1.69.76 M1.76 M1.76.69
  M1.76.69.69 M1.76.69.69.69 M1.69.78 M1.78 M1.78.69 M1.78.69.69 M1.6c D2.210a M1.6d M1.69
  M1.69.69 M1.69.69.69 M1.69.76 M1.76 M1.76.69 M1.76.69.69 M1.76.69.69.69 M1.69.78 M1.78 M1.78.69
  M1.78.69.69 M1.6c D2.211a M1.6d V3 M1.2184 V5 M1.30.2044.33 V2 X4 V9c M1.222b.222b
  M1.222b.222b.222b V1 M1.222e.222e M1.222e.222e.222e Vf8 U2.cdf Vff X16 Vb X15 D9.242f M1.31.30
  M1.31.31 M1.31.32 M1.31.33 M1.31.34 M1.31.35 M1.31.36 M1.31.37 M1.31.38 M1.31.39 M1.32.30
  M1.28.31.29 M1.28.32.29 M1.28.33.29 M1.28.34.29 M1.28.35.29 M1.28.36.29 M1.28.37.29 M1.28.38.29
  M1.28.39.29 M1.28.31.30.29 M1.28.31.31.29 M1.28.31.32.29 M1.28.31.33.29 M1.28.31.34.29
  M1.28.31.35.29 M1.28.31.36.29 M1.28.31.37.29 M1.28.31.38.29 M1.28.31.39.29 M1.28.32.30.29 X14
  M1.28.61.29 M1.28.62.29 M1.28.63.29 M1.28.64.29 M1.28.65.29 M1.28.66.29 M1.28.67.29 M1.28.68.29
  M1.28.69.29 M1.28.6a.29 M1.28.6b.29 M1.28.6c.29 M1.28.6d.29 M1.28.6e.29 M1.28.6f.29 M1.28.70.29
  M1.28.71.29 M1.28.72.29 M1.28.73.29 M1.28.74.29 M1.28.75.29 M1.28.76.29 M1.28.77.29 M1.28.78.29
  M1.28.79.29 M1.28.7a.29 D1a.2455 D1a.246f M1.30 V521 M1.222b.222b.222b.222b V67 M1.3a.3a.3d
  M1.3d.3d M1.3d.3d.3d V65 M1.2add.338 V97 X2 V8a U30.30 V30 M1.2c61 V1 M1.26b M1.1d7d M1.27d V2
  A6 M1.251 M1.271 M1.250 M1.252 V1 M1.2c73 V2 M1.2c76 V6 M1.6a M1.76 D2.2a3f A64 V7 A4 V3 M1.2cf3
  V1 X5 V2d X1 V1 X5 V1 X2 V38 X7 M1.2d61 V1 Xe V18 X9 V7 X1 V7 X1 V7 X1 V7 X1 V7 X1 V7 X1 V7 X1
  V7 X1 V7e X22 V1a X1 V4 M1.6bcd V53 M1.9f9f Xc M1.4e00 M1.4e28 M1.4e36 M1.4e3f M1.4e59 M1.4e85
  M1.4e8c M1.4ea0 M1.4eba M1.513f M1.5165 M1.516b M1.5182 M1.5196 M1.51ab M1.51e0 M1.51f5 M1.5200
  M1.529b M1.52f9 M1.5315 M1.531a M1.5338 M1.5341 M1.535c M1.5369 M1.5382 M1.53b6 M1.53c8 M1.53e3
  M1.56d7 M1.571f M1.58eb M1.5902 M1.590a M1.5915 M1.5927 M1.5973 M1.5b50 M1.5b80 M1.5bf8 M1.5c0f
  M1.5c22 M1.5c38 M1.5c6e M1.5c71 M1.5ddb M1.5de5 M1.5df1 M1.5dfe M1.5e72 M1.5e7a M1.5e7f M1.5ef4
  M1.5efe M1.5f0b M1.5f13 M1.5f50 M1.5f61 M1.5f73 M1.5fc3 M1.6208 M1.6236 M1.624b M1.652f M1.6534
  M1.6587 M1.6597 M1.65a4 M1.65b9 M1.65e0 M1.65e5 M1.66f0 M1.6708 M1.6728 M1.6b20 M1.6b62 M1.6b79
  M1.6bb3 M1.6bcb M1.6bd4 M1.6bdb M1.6c0f M1.6c14 M1.6c34 M1.706b M1.722a M1.7236 M1.723b M1.723f
  M1.7247 M1.7259 M1.725b M1.72ac M1.7384 M1.7389 M1.74dc M1.74e6 M1.7518 M1.751f M1.7528 M1.7530
  M1.758b M1.7592 M1.7676 M1.767d M1.76ae M1.76bf M1.76ee M1.77db M1.77e2 M1.77f3 M1.793a M1.79b8
  M1.79be M1.7a74 M1.7acb M1.7af9 M1.7c73 M1.7cf8 M1.7f36 M1.7f51 M1.7f8a M1.7fbd M1.8001 M1.800c
  M1.8012 M1.8033 M1.807f M1.8089 M1.81e3 M1.81ea M1.81f3 M1.81fc M1.820c M1.821b M1.821f M1.826e
  M1.8272 M1.8278 M1.864d M1.866b M1.8840 M1.884c M1.8863 M1.897e M1.898b M1.89d2 M1.8a00 M1.8c37
  M1.8c46 M1.8c55 M1.8c78 M1.8c9d M1.8d64 M1.8d70 M1.8db3 M1.8eab M1.8eca M1.8f9b M1.8fb0 M1.8fb5
  M1.9091 M1.9149 M1.91c6 M1.91cc M1.91d1 M1.9577 M1.9580 M1.961c M1.96b6 M1.96b9 M1.96e8 M1.9751
  M1.975e M1.9762 M1.9769 M1.97cb M1.97ed M1.97f3 M1.9801 M1.98a8 M1.98db M1.98df M1.9996 M1.9999
  M1.99ac M1.9aa8 M1.9ad8 M1.9adf M1.9b25 M1.9b2f M1.9b32 M1.9b3c M1.9b5a M1.9ce5 M1.9e75 M1.9e7f
  M1.9ea5 M1.9ebb M1.9ec3 M1.9ecd M1.9ed1 M1.9ef9 M1.9efd M1.9f0e M1.9f13 M1.9f20 M1.9f3b M1.9f4a
  M1.9f52 M1.9f8d M1.9f9c M1.9fa0 X2a M1.20 V1 M1.2e V33 M1.3012 V1 M1.5341 U2.230b V5 X1 V56 X2
  V2 M1.20.3099 M1.20.309a V2 M1.3088.308a V5f M1.30b3.30c8 X5 V2b X1 D2.2031 M1.11aa M1.1102
  D2.1f89 D3.2034 D6.1f8a M1.111a D3.203b M1.1121 Da.203c D15.1fee I1 D2.2051 D2.1fa0 M1.11cc
  M1.11ce M1.11d3 M1.11d7 M1.11d9 M1.111c M1.11dd M1.11df D2.2054 M1.1120 D2.2052 M1.1127 M1.1129
  D5.204d M1.1132 M1.1136 M1.1140 M1.1147 M1.114c D2.1f91 D3.202d D2.2003 M1.1188 D2.1ff9 M1.1194
  M1.119e M1.11a1 X1 V2 M1.4e00 M1.4e8c M1.4e09 M1.56db M1.4e0a M1.4e2d M1.4e0b M1.7532 M1.4e59
  M1.4e19 M1.4e01 M1.5929 M1.5730 M1.4eba V46 Xa V10 M1.28.1100.29 M1.28.1102.29 M1.28.1103.29
  M1.28.1105.29 M1.28.1106.29 M1.28.1107.29 M1.28.1109.29 M1.28.110b.29 M1.28.110c.29
  M1.28.110e.29 M1.28.110f.29 M1.28.1110.29 M1.28.1111.29 M1.28.1112.29 M1.28.ac00.29
  M1.28.b098.29 M1.28.b2e4.29 M1.28.b77c.29 M1.28.b9c8.29 M1.28.bc14.29 M1.28.c0ac.29
  M1.28.c544.29 M1.28.c790.29 M1.28.cc28.29 M1.28.ce74.29 M1.28.d0c0.29 M1.28.d30c.29
  M1.28.d558.29 M1.28.c8fc.29 M1.28.c624.c804.29 M1.28.c624.d6c4.29 X1 M1.28.4e00.29 M1.28.4e8c.29
  M1.28.4e09.29 M1.28.56db.29 M1.28.4e94.29 M1.28.516d.29 M1.28.4e03.29 M1.28.516b.29
  M1.28.4e5d.29 M1.28.5341.29 M1.28.6708.29 M1.28.706b.29 M1.28.6c34.29 M1.28.6728.29
  M1.28.91d1.29 M1.28.571f.29 M1.28.65e5.29 M1.28.682a.29 M1.28.6709.29 M1.28.793e.29
  M1.28.540d.29 M1.28.7279.29 M1.28.8ca1.29 M1.28.795d.29 M1.28.52b4.29 M1.28.4ee3.29
  M1.28.547c.29 M1.28.5b66.29 M1.28.76e3.29 M1.28.4f01.29 M1.28.8cc7.29 M1.28.5354.29
  M1.28.796d.29 M1.28.4f11.29 M1.28.81ea.29 M1.28.81f3.29 M1.554f M1.5e7c M1.6587 M1.7b8f V8
  M1.70.74.65 M1.32.31 M1.32.32 M1.32.33 M1.32.34 M1.32.35 M1.32.36 M1.32.37 M1.32.38 M1.32.39
  M1.33.30 M1.33.31 M1.33.32 M1.33.33 M1.33.34 M1.33.35 M1.1100 D2.215f D3.215e M1.1109 D2.215c
  D5.215b M1.ac00 M1.b098 M1.b2e4 M1.b77c M1.b9c8 M1.bc14 M1.c0ac M1.c544 M1.c790 M1.cc28 M1.ce74
  M1.d0c0 M1.d30c M1.d558 M1.cc38.ace0 M1.c8fc.c758 M1.c6b0 V1 M1.4e00 M1.4e8c M1.4e09 M1.56db
  M1.4e94 M1.516d M1.4e03 M1.516b M1.4e5d M1.5341 M1.6708 M1.706b M1.6c34 M1.6728 M1.91d1 M1.571f
  M1.65e5 M1.682a M1.6709 M1.793e M1.540d M1.7279 M1.8ca1 M1.795d M1.52b4 M1.79d8 M1.7537 M1.5973
  M1.9069 M1.512a M1.5370 M1.6ce8 M1.9805 M1.4f11 M1.5199 M1.6b63 M1.4e0a M1.4e2d M1.4e0b M1.5de6
  M1.53f3 M1.533b M1.5b97 M1.5b66 M1.76e3 M1.4f01 M1.8cc7 M1.5354 M1.591c M1.33.36 M1.33.37
  M1.33.38 M1.33.39 M1.34.30 M1.34.31 M1.34.32 M1.34.33 M1.34.34 M1.34.35 M1.34.36 M1.34.37
  M1.34.38 M1.34.39 M1.35.30 M1.31.6708 M1.32.6708 M1.33.6708 M1.34.6708 M1.35.6708 M1.36.6708
  M1.37.6708 M1.38.6708 M1.39.6708 M1.31.30.6708 M1.31.31.6708 M1.31.32.6708 M1.68.67 M1.65.72.67
  M1.65.76 M1.6c.74.64 M1.30a2 M1.30a4 M1.30a6 M1.30a8 D2.22a M1.30ad M1.30af M1.30b1 M1.30b3
  M1.30b5 M1.30b7 M1.30b9 M1.30bb M1.30bd M1.30bf M1.30c1 M1.30c4 M1.30c6 M1.30c8 D6.21a M1.30d2
  M1.30d5 M1.30d8 M1.30db D5.210 M1.30e4 M1.30e6 D6.20d D4.20c M1.4ee4.548c M1.30a2.30d1.30fc.30c8
  M1.30a2.30eb.30d5.30a1 M1.30a2.30f3.30da.30a2 M1.30a2.30fc.30eb M1.30a4.30cb.30f3.30b0
  M1.30a4.30f3.30c1 M1.30a6.30a9.30f3 M1.30a8.30b9.30af.30fc.30c9 M1.30a8.30fc.30ab.30fc
  M1.30aa.30f3.30b9 M1.30aa.30fc.30e0 M1.30ab.30a4.30ea M1.30ab.30e9.30c3.30c8
  M1.30ab.30ed.30ea.30fc M1.30ac.30ed.30f3 M1.30ac.30f3.30de M1.30ae.30ac M1.30ae.30cb.30fc
  M1.30ad.30e5.30ea.30fc M1.30ae.30eb.30c0.30fc M1.30ad.30ed M1.30ad.30ed.30b0.30e9.30e0
  M1.30ad.30ed.30e1.30fc.30c8.30eb M1.30ad.30ed.30ef.30c3.30c8 M1.30b0.30e9.30e0
  M1.30b0.30e9.30e0.30c8.30f3 M1.30af.30eb.30bc.30a4.30ed M1.30af.30ed.30fc.30cd M1.30b1.30fc.30b9
  M1.30b3.30eb.30ca M1.30b3.30fc.30dd M1.30b5.30a4.30af.30eb M1.30b5.30f3.30c1.30fc.30e0
  M1.30b7.30ea.30f3.30b0 M1.30bb.30f3.30c1 M1.30bb.30f3.30c8 M1.30c0.30fc.30b9 M1.30c7.30b7
  M1.30c9.30eb M1.30c8.30f3 M1.30ca.30ce M1.30ce.30c3.30c8 M1.30cf.30a4.30c4
  M1.30d1.30fc.30bb.30f3.30c8 M1.30d1.30fc.30c4 M1.30d0.30fc.30ec.30eb M1.30d4.30a2.30b9.30c8.30eb
  M1.30d4.30af.30eb M1.30d4.30b3 M1.30d3.30eb M1.30d5.30a1.30e9.30c3.30c9 M1.30d5.30a3.30fc.30c8
  M1.30d6.30c3.30b7.30a7.30eb M1.30d5.30e9.30f3 M1.30d8.30af.30bf.30fc.30eb M1.30da.30bd
  M1.30da.30cb.30d2 M1.30d8.30eb.30c4 M1.30da.30f3.30b9 M1.30da.30fc.30b8 M1.30d9.30fc.30bf
  M1.30dd.30a4.30f3.30c8 M1.30dc.30eb.30c8 M1.30db.30f3 M1.30dd.30f3.30c9 M1.30db.30fc.30eb
  M1.30db.30fc.30f3 M1.30de.30a4.30af.30ed M1.30de.30a4.30eb M1.30de.30c3.30cf M1.30de.30eb.30af
  M1.30de.30f3.30b7.30e7.30f3 M1.30df.30af.30ed.30f3 M1.30df.30ea M1.30df.30ea.30d0.30fc.30eb
  M1.30e1.30ac M1.30e1.30ac.30c8.30f3 M1.30e1.30fc.30c8.30eb M1.30e4.30fc.30c9 M1.30e4.30fc.30eb
  M1.30e6.30a2.30f3 M1.30ea.30c3.30c8.30eb M1.30ea.30e9 M1.30eb.30d4.30fc M1.30eb.30fc.30d6.30eb
  M1.30ec.30e0 M1.30ec.30f3.30c8.30b2.30f3 M1.30ef.30c3.30c8 M1.30.70b9 M1.31.70b9 M1.32.70b9
  M1.33.70b9 M1.34.70b9 M1.35.70b9 M1.36.70b9 M1.37.70b9 M1.38.70b9 M1.39.70b9 M1.31.30.70b9
  M1.31.31.70b9 M1.31.32.70b9 M1.31.33.70b9 M1.31.34.70b9 M1.31.35.70b9 M1.31.36.70b9
  M1.31.37.70b9 M1.31.38.70b9 M1.31.39.70b9 M1.32.30.70b9 M1.32.31.70b9 M1.32.32.70b9
  M1.32.33.70b9 M1.32.34.70b9 M1.68.70.61 M1.64.61 M1.61.75 M1.62.61.72 M1.6f.76 M1.70.63 M1.64.6d
  M1.64.6d.32 M1.64.6d.33 M1.69.75 M1.5e73.6210 M1.662d.548c M1.5927.6b63 M1.660e.6cbb
  M1.682a.5f0f.4f1a.793e M1.70.61 M1.6e.61 M1.3bc.61 M1.6d.61 M1.6b.61 M1.6b.62 M1.6d.62 M1.67.62
  M1.63.61.6c M1.6b.63.61.6c M1.70.66 M1.6e.66 M1.3bc.66 M1.3bc.67 M1.6d.67 M1.6b.67 M1.68.7a
  M1.6b.68.7a M1.6d.68.7a M1.67.68.7a M1.74.68.7a M1.3bc.6c M1.6d.6c M1.64.6c M1.6b.6c M1.66.6d
  M1.6e.6d M1.3bc.6d M1.6d.6d M1.63.6d M1.6b.6d M1.6d.6d.32 M1.63.6d.32 M1.6d.32 M1.6b.6d.32
  M1.6d.6d.33 M1.63.6d.33 M1.6d.33 M1.6b.6d.33 M1.6d.2215.73 M1.6d.2215.73.32 M1.70.61 M1.6b.70.61
  M1.6d.70.61 M1.67.70.61 M1.72.61.64 M1.72.61.64.2215.73 M1.72.61.64.2215.73.32 M1.70.73 M1.6e.73
  M1.3bc.73 M1.6d.73 M1.70.76 M1.6e.76 M1.3bc.76 M1.6d.76 M1.6b.76 M1.6d.76 M1.70.77 M1.6e.77
  M1.3bc.77 M1.6d.77 M1.6b.77 M1.6d.77 M1.6b.3c9 M1.6d.3c9 X1 M1.62.71 M1.63.63 M1.63.64
  M1.63.2215.6b.67 X1 M1.64.62 M1.67.79 M1.68.61 M1.68.70 M1.69.6e M1.6b.6b M1.6b.6d M1.6b.74
  M1.6c.6d M1.6c.6e M1.6c.6f.67 M1.6c.78 M1.6d.62 M1.6d.69.6c M1.6d.6f.6c M1.70.68 X1 M1.70.70.6d
  M1.70.72 M1.73.72 M1.73.76 M1.77.62 M1.76.2215.6d M1.61.2215.6d M1.31.65e5 M1.32.65e5 M1.33.65e5
  M1.34.65e5 M1.35.65e5 M1.36.65e5 M1.37.65e5 M1.38.65e5 M1.39.65e5 M1.31.30.65e5 M1.31.31.65e5
  M1.31.32.65e5 M1.31.33.65e5 M1.31.34.65e5 M1.31.35.65e5 M1.31.36.65e5 M1.31.37.65e5
  M1.31.38.65e5 M1.31.39.65e5 M1.32.30.65e5 M1.32.31.65e5 M1.32.32.65e5 M1.32.33.65e5
  M1.32.34.65e5 M1.32.35.65e5 M1.32.36.65e5 M1.32.37.65e5 M1.32.38.65e5 M1.32.39.65e5
  M1.33.30.65e5 M1.33.31.65e5 M1.67.61.6c V708d X3 V37 X9 V15c X14 A2e V12 A1c M1.44a M1.44c V5a
  X8 V22 Ae V2 A3e M1.a76f V8 A4 M1.1d79 Aa V3 M1.a78c V1 M1.265 V2 A4 V2 A14 M1.266 M1.25c M1.261
  M1.26c M1.26a V1 M1.29e M1.287 M1.29d M1.ab53 A10 M1.a794 M1.282 M1.1d8e A4 M1.264 A10 M1.19b
  X14 M1.73 M1.63 M1.66 M1.71 M1.a7f6 V2 M1.127 M1.153 V33 X3 Va X6 V38 X8 V46 X8 Vc X6 V74 Xb V1e
  X3 V4e X1 Vb X4 V21 X1 V37 X9 Ve X2 Va X2 V67 X18 V1c Xa V6 X2 V6 X2 V6 X9 V7 X1 V7 X1 V2c
  M1.a727 M1.ab37 M1.26b M1.ab52 V9 M1.28d V2 X4 D50.97d0 V2e X2 Va X6 V2ba4 Xc V17 X4 V31 X2104
  M1.8c48 M1.66f4 M1.8eca M1.8cc8 M1.6ed1 M1.4e32 M1.53e5 M2.9f9c M1.5951 M1.91d1 M1.5587 M1.5948
  M1.61f6 M1.7669 M1.7f85 M1.863f M1.87ba M1.88f8 M1.908f M1.6a02 M1.6d1b M1.70d9 M1.73de M1.843d
  M1.916a M1.99f1 M1.4e82 M1.5375 M1.6b04 M1.721b M1.862d M1.9e1e M1.5d50 M1.6feb M1.85cd M1.8964
  M1.62c9 M1.81d8 M1.881f M1.5eca M1.6717 M1.6d6a M1.72fc M1.90ce M1.4f86 M1.51b7 M1.52de M1.64c4
  M1.6ad3 M1.7210 M1.76e7 M1.8001 M1.8606 M1.865c M1.8def M1.9732 M1.9b6f M1.9dfa M1.788c M1.797f
  M1.7da0 M1.83c9 M1.9304 M1.9e7f M1.8ad6 M1.58df M1.5f04 M1.7c60 M1.807e M1.7262 M1.78ca M1.8cc2
  M1.96f7 M1.58d8 M1.5c62 M1.6a13 M1.6dda M1.6f0f M1.7d2f M1.7e37 M1.964b M1.52d2 M1.808b M1.51dc
  M1.51cc M1.7a1c M1.7dbe M1.83f1 M1.9675 M1.8b80 M1.62cf M1.6a02 M1.8afe M1.4e39 M1.5be7 M1.6012
  M1.7387 M1.7570 M1.5317 M1.78fb M1.4fbf M1.5fa9 M1.4e0d M1.6ccc M1.6578 M1.7d22 M1.53c3 M1.585e
  M1.7701 M1.8449 M1.8aaa M1.6bba M1.8fb0 M1.6c88 M1.62fe M1.82e5 M1.63a0 M1.7565 M1.4eae M1.5169
  M1.51c9 M1.6881 M1.7ce7 M1.826f M1.8ad2 M1.91cf M1.52f5 M1.5442 M1.5973 M1.5eec M1.65c5 M1.6ffe
  M1.792a M1.95ad M1.9a6a M1.9e97 M1.9ece M1.529b M1.66c6 M1.6b77 M1.8f62 M1.5e74 M1.6190 M1.6200
  M1.649a M1.6f23 M1.7149 M1.7489 M1.79ca M1.7df4 M1.806f M1.8f26 M1.84ee M1.9023 M1.934a M1.5217
  M1.52a3 M1.54bd M1.70c8 M1.88c2 M1.8aaa M1.5ec9 M1.5ff5 M1.637b M1.6bae M1.7c3e M1.7375 M1.4ee4
  M1.56f9 M1.5be7 M1.5dba M1.601c M1.73b2 M1.7469 M1.7f9a M1.8046 M1.9234 M1.96f6 M1.9748 M1.9818
  M1.4f8b M1.79ae M1.91b4 M1.96b8 M1.60e1 M1.4e86 M1.50da M1.5bee M1.5c3f M1.6599 M1.6a02 M1.71ce
  M1.7642 M1.84fc M1.907c M1.9f8d M1.6688 M1.962e M1.5289 M1.677b M1.67f3 M1.6d41 M1.6e9c M1.7409
  M1.7559 M1.786b M1.7d10 M1.985e M1.516d M1.622e M1.9678 M1.502b M1.5d19 M1.6dea M1.8f2a M1.5f8b
  M1.6144 M1.6817 M1.7387 M1.9686 M1.5229 M1.540f M1.5c65 M1.6613 M1.674e M1.68a8 M1.6ce5 M1.7406
  M1.75e2 M1.7f79 M1.88cf M1.88e1 M1.91cc M1.96e2 M1.533f M1.6eba M1.541d M1.71d0 M1.7498 M1.85fa
  M1.96a3 M1.9c57 M1.9e9f M1.6797 M1.6dcb M1.81e8 M1.7acb M1.7b20 M1.7c92 M1.72c0 M1.7099 M1.8b58
  M1.4ec0 M1.8336 M1.523a M1.5207 M1.5ea6 M1.62d3 M1.7cd6 M1.5b85 M1.6d1e M1.66b4 M1.8f3b M1.884c
  M1.964d M1.898b M1.5ed3 M1.5140 M1.55c0 V2 M1.585a V1 M1.6674 V2 M1.51de M1.732a M1.76ca M1.793c
  M1.795e M1.7965 M1.798f M1.9756 M1.7cbe M1.7fbd V1 M1.8612 V1 M1.8af8 V2 M1.9038 M1.90fd V3
  M1.98ef M1.98fc M1.9928 M1.9db4 M1.90de M1.96b7 M1.4fae M1.50e7 M1.514d M1.52c9 M1.52e4 M1.5351
  M1.559d M1.5606 M1.5668 M1.5840 M1.58a8 M1.5c64 M1.5c6e M1.6094 M1.6168 M1.618e M1.61f2 M1.654f
  M1.65e2 M1.6691 M1.6885 M1.6d77 M1.6e1a M1.6f22 M1.716e M1.722b M1.7422 M1.7891 M1.793e M1.7949
  M1.7948 M1.7950 M1.7956 M1.795d D2.80c5 M1.7a40 M1.7a81 M1.7bc0 M1.7df4 M1.7e09 M1.7e41 M1.7f72
  M1.8005 M1.81ed M2.8279 M1.8457 M1.8910 M1.8996 M1.8b01 M1.8b39 M1.8cd3 M1.8d08 M1.8fb6 M1.9038
  M1.96e3 M1.97ff M1.983b M1.6075 M1.242ee M1.8218 X2 M1.4e26 M1.51b5 M1.5168 M1.4f80 M1.5145
  M1.5180 M1.52c7 M1.52fa M1.559d M1.5555 M1.5599 M1.55e2 M1.585a M1.58b3 M1.5944 M1.5954 M1.5a62
  M1.5b28 M1.5ed2 M1.5ed9 M1.5f69 M1.5fad M1.60d8 M1.614e M1.6108 M1.618e M1.6160 M1.61f2 M1.6234
  M1.63c4 M1.641c M1.6452 M1.6556 M1.6674 M1.6717 M1.671b M1.6756 M1.6b79 M1.6bba M1.6d41 M1.6edb
  M1.6ecb M1.6f22 M1.701e M1.716e M1.77a7 M1.7235 M1.72af M1.732a M1.7471 M1.7506 M1.753b M1.761d
  M1.761f M1.76ca M1.76db M1.76f4 M1.774a M1.7740 M1.78cc M1.7ab1 M1.7bc0 M1.7c7b M1.7d5b M1.7df4
  M1.7f3e M1.8005 M1.8352 M1.83ef M1.8779 M1.8941 M1.8986 M1.8996 M1.8abf M1.8af8 M1.8acb M1.8b01
  M1.8afe M1.8aed M1.8b39 M1.8b8a M1.8d08 M1.8f38 M1.9072 M1.9199 M1.9276 M1.967c M1.96e3 M1.9756
  M1.97db M1.97ff M1.980b M1.983b M1.9b12 M1.9f9c M1.2284a M1.22844 M1.233d5 M1.3b9d M1.4018
  M1.4039 M1.25249 M1.25cd0 M1.27ed3 M1.9f43 M1.9f8e X26 M1.66.66 M1.66.69 M1.66.6c M1.66.66.69
  M1.66.66.6c M2.73.74 Xc M1.574.576 M1.574.565 M1.574.56b M1.57e.576 M1.574.56d X5 M1.5d9.5b4 V1
  M1.5f2.5b7 M1.5e2 M1.5d0 D2.f54f D3.f549 M1.5e8 M1.5ea M1.2b M1.5e9.5c1 M1.5e9.5c2
  M1.5e9.5bc.5c1 M1.5e9.5bc.5c2 M1.5d0.5b7 M1.5d0.5b8 M1.5d0.5bc M1.5d1.5bc M1.5d2.5bc M1.5d3.5bc
  M1.5d4.5bc M1.5d5.5bc M1.5d6.5bc X1 M1.5d8.5bc M1.5d9.5bc M1.5da.5bc M1.5db.5bc M1.5dc.5bc X1
  M1.5de.5bc X1 M1.5e0.5bc M1.5e1.5bc X1 M1.5e3.5bc M1.5e4.5bc X1 M1.5e6.5bc M1.5e7.5bc M1.5e8.5bc
  M1.5e9.5bc M1.5ea.5bc M1.5d5.5b9 M1.5d1.5bf M1.5db.5bf M1.5e4.5bf M1.5d0.5dc M2.671 M4.67b
  M4.67e M4.680 M4.67a M4.67f M4.679 M4.6a4 M4.6a6 M4.684 M4.683 M4.686 M4.687 M2.68d M2.68c
  M2.68e M2.688 M2.698 M2.691 M4.6a9 M4.6af M4.6b3 M4.6b1 M2.6ba M4.6bb M2.6c0 M4.6c1 M4.6be
  M2.6d2 M2.6d3 V21 M4.6ad M2.6c7 M2.6c6 M2.6c8 M1.6c7.674 M2.6cb M2.6c5 M2.6c9 M4.6d0 M2.649
  M2.626.627 M2.626.6d5 M2.626.648 M2.626.6c7 M2.626.6c6 M2.626.6c8 M3.626.6d0 M3.626.649 M4.6cc
  M1.626.62c M1.626.62d M1.626.645 M1.626.649 M1.626.64a M1.628.62c M1.628.62d M1.628.62e
  M1.628.645 M1.628.649 M1.628.64a M1.62a.62c M1.62a.62d M1.62a.62e M1.62a.645 M1.62a.649
  M1.62a.64a M1.62b.62c M1.62b.645 M1.62b.649 M1.62b.64a M1.62c.62d M1.62c.645 M1.62d.62c
  M1.62d.645 M1.62e.62c M1.62e.62d M1.62e.645 M1.633.62c M1.633.62d M1.633.62e M1.633.645
  M1.635.62d M1.635.645 M1.636.62c M1.636.62d M1.636.62e M1.636.645 M1.637.62d M1.637.645
  M1.638.645 M1.639.62c M1.639.645 M1.63a.62c M1.63a.645 M1.641.62c M1.641.62d M1.641.62e
  M1.641.645 M1.641.649 M1.641.64a M1.642.62d M1.642.645 M1.642.649 M1.642.64a M1.643.627
  M1.643.62c M1.643.62d M1.643.62e M1.643.644 M1.643.645 M1.643.649 M1.643.64a M1.644.62c
  M1.644.62d M1.644.62e M1.644.645 M1.644.649 M1.644.64a M1.645.62c M1.645.62d M1.645.62e
  M1.645.645 M1.645.649 M1.645.64a M1.646.62c M1.646.62d M1.646.62e M1.646.645 M1.646.649
  M1.646.64a M1.647.62c M1.647.645 M1.647.649 M1.647.64a M1.64a.62c M1.64a.62d M1.64a.62e
  M1.64a.645 M1.64a.649 M1.64a.64a M1.630.670 M1.631.670 M1.649.670 M1.20.64c.651 M1.20.64d.651
  M1.20.64e.651 M1.20.64f.651 M1.20.650.651 M1.20.651.670 M1.626.631 M1.626.632 M1.626.645
  M1.626.646 M1.626.649 M1.626.64a M1.628.631 M1.628.632 M1.628.645 M1.628.646 M1.628.649
  M1.628.64a M1.62a.631 M1.62a.632 M1.62a.645 M1.62a.646 M1.62a.649 M1.62a.64a M1.62b.631
  M1.62b.632 M1.62b.645 M1.62b.646 M1.62b.649 M1.62b.64a M1.641.649 M1.641.64a M1.642.649
  M1.642.64a M1.643.627 M1.643.644 M1.643.645 M1.643.649 M1.643.64a M1.644.645 M1.644.649
  M1.644.64a M1.645.627 M1.645.645 M1.646.631 M1.646.632 M1.646.645 M1.646.646 M1.646.649
  M1.646.64a M1.649.670 M1.64a.631 M1.64a.632 M1.64a.645 M1.64a.646 M1.64a.649 M1.64a.64a
  M1.626.62c M1.626.62d M1.626.62e M1.626.645 M1.626.647 M1.628.62c M1.628.62d M1.628.62e
  M1.628.645 M1.628.647 M1.62a.62c M1.62a.62d M1.62a.62e M1.62a.645 M1.62a.647 M1.62b.645
  M1.62c.62d M1.62c.645 M1.62d.62c M1.62d.645 M1.62e.62c M1.62e.645 M1.633.62c M1.633.62d
  M1.633.62e M1.633.645 M1.635.62d M1.635.62e M1.635.645 M1.636.62c M1.636.62d M1.636.62e
  M1.636.645 M1.637.62d M1.638.645 M1.639.62c M1.639.645 M1.63a.62c M1.63a.645 M1.641.62c
  M1.641.62d M1.641.62e M1.641.645 M1.642.62d M1.642.645 M1.643.62c M1.643.62d M1.643.62e
  M1.643.644 M1.643.645 M1.644.62c M1.644.62d M1.644.62e M1.644.645 M1.644.647 M1.645.62c
  M1.645.62d M1.645.62e M1.645.645 M1.646.62c M1.646.62d M1.646.62e M1.646.645 M1.646.647
  M1.647.62c M1.647.645 M1.647.670 M1.64a.62c M1.64a.62d M1.64a.62e M1.64a.645 M1.64a.647
  M1.626.645 M1.626.647 M1.628.645 M1.628.647 M1.62a.645 M1.62a.647 M1.62b.645 M1.62b.647
  M1.633.645 M1.633.647 M1.634.645 M1.634.647 M1.643.644 M1.643.645 M1.644.645 M1.646.645
  M1.646.647 M1.64a.645 M1.64a.647 M1.640.64e.651 M1.640.64f.651 M1.640.650.651 M1.637.649
  M1.637.64a M1.639.649 M1.639.64a M1.63a.649 M1.63a.64a M1.633.649 M1.633.64a M1.634.649
  M1.634.64a M1.62d.649 M1.62d.64a M1.62c.649 M1.62c.64a M1.62e.649 M1.62e.64a M1.635.649
  M1.635.64a M1.636.649 M1.636.64a M1.634.62c M1.634.62d M1.634.62e M1.634.645 M1.634.631
  M1.633.631 M1.635.631 M1.636.631 M1.637.649 M1.637.64a M1.639.649 M1.639.64a M1.63a.649
  M1.63a.64a M1.633.649 M1.633.64a M1.634.649 M1.634.64a M1.62d.649 M1.62d.64a M1.62c.649
  M1.62c.64a M1.62e.649 M1.62e.64a M1.635.649 M1.635.64a M1.636.649 M1.636.64a M1.634.62c
  M1.634.62d M1.634.62e M1.634.645 M1.634.631 M1.633.631 M1.635.631 M1.636.631 M1.634.62c
  M1.634.62d M1.634.62e M1.634.645 M1.633.647 M1.634.647 M1.637.645 M1.633.62c M1.633.62d
  M1.633.62e M1.634.62c M1.634.62d M1.634.62e M1.637.645 M1.638.645 M2.627.64b V12 M1.62a.62c.645
  M2.62a.62d.62c M1.62a.62d.645 M1.62a.62e.645 M1.62a.645.62c M1.62a.645.62d M1.62a.645.62e
  M2.62c.645.62d M1.62d.645.64a M1.62d.645.649 M1.633.62d.62c M1.633.62c.62d M1.633.62c.649
  M2.633.645.62d M1.633.645.62c M2.633.645.645 M2.635.62d.62d M1.635.645.645 M2.634.62d.645
  M1.634.62c.64a M2.634.645.62e M2.634.645.645 M1.636.62d.649 M2.636.62e.645 M2.637.645.62d
  M1.637.645.645 M1.637.645.64a M1.639.62c.645 M2.639.645.645 M1.639.645.649 M1.63a.645.645
  M1.63a.645.64a M1.63a.645.649 M2.641.62e.645 M1.642.645.62d M1.642.645.645 M1.644.62d.645
  M1.644.62d.64a M1.644.62d.649 M2.644.62c.62c M2.644.62e.645 M2.644.645.62d M1.645.62d.62c
  M1.645.62d.645 M1.645.62d.64a M1.645.62c.62d M1.645.62c.645 M1.645.62e.62c M1.645.62e.645 V2
  M1.645.62c.62e M1.647.645.62c M1.647.645.645 M1.646.62d.645 M1.646.62d.649 M2.646.62c.645
  M1.646.62c.649 M1.646.645.64a M1.646.645.649 M2.64a.645.645 M1.628.62e.64a M1.62a.62c.64a
  M1.62a.62c.649 M1.62a.62e.64a M1.62a.62e.649 M1.62a.645.64a M1.62a.645.649 M1.62c.645.64a
  M1.62c.62d.649 M1.62c.645.649 M1.633.62e.649 M1.635.62d.64a M1.634.62d.64a M1.636.62d.64a
  M1.644.62c.64a M1.644.645.64a M1.64a.62d.64a M1.64a.62c.64a M1.64a.645.64a M1.645.645.64a
  M1.642.645.64a M1.646.62d.64a M1.642.645.62d M1.644.62d.645 M1.639.645.64a M1.643.645.64a
  M1.646.62c.62d M1.645.62e.64a M1.644.62c.645 M1.643.645.645 M1.644.62c.645 M1.646.62c.62d
  M1.62c.62d.64a M1.62d.62c.64a M1.645.62c.64a M1.641.645.64a M1.628.62d.64a M1.643.645.645
  M1.639.62c.645 M1.635.645.645 M1.633.62e.64a M1.646.62c.64a V8 X20 M1.635.644.6d2 M1.642.644.6d2
  M1.627.644.644.647 M1.627.643.628.631 M1.645.62d.645.62f M1.635.644.639.645 M1.631.633.648.644
  M1.639.644.64a.647 M1.648.633.644.645 M1.635.644.649
  M1.635.644.649.20.627.644.644.647.20.639.644.64a.647.20.648.633.644.645
  M1.62c.644.20.62c.644.627.644.647 M1.631.6cc.627.644 V3 I10 M1.2c M1.3001 X1 D2.fdd9 M1.21 M1.3f
  D2.ce01 X7 V10 X1 M1.2014 M1.2013 M2.5f D2.fe0d M1.7b M1.7d D2.ce25 D2.ce2b D2.ce33 D2.ce37
  D4.ce35 V2 M1.5b M1.5d M4.20.305 M3.5f M1.2c M1.3001 X2 M1.3b M1.3a M1.3f M1.21 M1.2014 D2.fe31
  M1.7b M1.7d D2.ce49 M1.23 M1.26 D2.fe37 M1.2d M1.3c M1.3e M1.3d X1 M1.5c D2.fe45 M1.40 X4
  M1.20.64b M1.640.64b M1.20.64c V1 M1.20.64d X1 M1.20.64e M1.640.64e M1.20.64f M1.640.64f
  M1.20.650 M1.640.650 M1.20.651 M1.640.651 M1.20.652 M1.640.652 D2.f85f D2.f860 D2.f861 D2.f862
  D2.f863 M3.626 M2.627 M4.628 M2.629 M4.62a M4.62b M4.62c M4.62d M4.62e M2.62f M2.630 M2.631
  M2.632 M4.633 M4.634 M4.635 M4.636 M4.637 M4.638 M4.639 M4.63a M4.641 M4.642 M4.643 M4.644
  M4.645 M4.646 M4.647 M2.648 M2.649 M4.64a M2.644.622 M2.644.623 M2.644.625 M2.644.627 X2 I1 X1
  D20.fee0 D1a.fec0 D24.fee0 D2.d5da M1.2e D2.cf56 M1.3001 M1.30fb M1.30f2 M1.30a1 M1.30a3 M1.30a5
  M1.30a7 M1.30a9 M1.30e3 M1.30e5 M1.30e7 M1.30c3 M1.30fc M1.30a2 M1.30a4 M1.30a6 M1.30a8 D2.cecb
  M1.30ad M1.30af M1.30b1 M1.30b3 M1.30b5 M1.30b7 M1.30b9 M1.30bb M1.30bd M1.30bf M1.30c1 M1.30c4
  M1.30c6 M1.30c8 D6.cebb M1.30d2 M1.30d5 M1.30d8 M1.30db D5.ceb1 M1.30e4 M1.30e6 D6.ceae M1.30ef
  M1.30f3 D2.cf05 I1 D2.eea1 M1.11aa M1.1102 D2.edf9 D3.eea4 D6.edfa M1.111a D3.eeab M1.1121
  Da.eeac X3 D6.ee61 X2 D6.ee63 X2 D6.ee65 X2 D3.ee67 X3 D2.ff3e M1.ac M1.20.304 M1.a6 M1.a5
  M1.20a9 X1 M1.2502 D4.de59 M1.25a0 M1.25cb X11 Vc X1 V1a X1 V13 X1 V2 X1 Vf X2 Ve X22 V7b X5 V3
  X4 V2d X3 V58 X1 Vd X3 V1 X2f V2e X82 V1d X3 V31 Xf V1c X4 V24 X9 V1e X5 V2b X5 V1e X1 V25 X4 Ve
  X2a U28.28 V76 X2 Va X6 U24.28 X4 V24 X4 V28 X8 V34 Xb V1 Ub.27 X1 Uf.27 X1 U7.27 X1 U2.27 X1 Vb
  X1 Vf X1 V7 X1 V2 X3 V34 Xc V137 X9 V16 Xa V8 X18 V1 D2.104b1 M1.e6 M1.299 M1.253 X1 M1.2a3
  M1.ab66 M1.2a5 M1.2a4 D2.10535 M1.1d91 M1.258 M1.25e M1.2a9 M1.264 M1.262 M1.260 M1.29b M1.127
  M1.29c M1.267 M1.284 D2.104ef M1.26c M1.1df04 M1.a78e M1.26e M1.1df05 M1.28e M1.1df06 M1.f8
  D2.1052d M1.71 M1.27a M1.1df08 D2.1052b M1.280 M1.2a8 M1.2a6 M1.ab67 M1.2a7 M1.288 M1.2c71 X1
  M1.28f D2.10512 M1.298 D3.105f6 M1.1df0a M1.1df1e X45 V6 X2 V1 X1 V2c X1 V2 X3 V1 X2 V17 X1 V48
  X8 V9 X30 V13 X1 V2 X5 V21 X3 V1b X5 V1b X26 V38 X4 V14 X2 V32 X1 V2 X5 V8 X1 V3 X1 V1d X2 V3 X4
  Va X7 V9 X7 V40 X20 V27 X4 Vc X9 V36 X3 V1d X2 V1b X5 V1a X7 V4 Xc V7 X50 V49 X37 U33.40 Xd V33
  X7 V2e X8 Va X6 V10 U16.20 X3 V1d X8 V2 Xd0 V1f X1 V2a X1 V3 X2 V2 X10 V6 X8 V9 X21 V2e X8 V2a
  X16 V1a X26 V1c X14 V17 X9 V4e X4 V24 X9 V3e X1 V5 Xd V19 X7 Va X6 V35 X1 V12 X8 V27 X9 V60 X1
  V14 Xb V12 X1 V2f X3e V7 X1 V1 X1 V4 X1 Vf X1 Vb X6 V3b X5 Va X6 V4 X1 V8 X2 V2 X2 V16 X1 V7 X1
  V2 X1 V5 X1 Va X2 V2 X2 V3 X2 V1 X6 V1 X5 V7 X2 V7 X3 V5 Xb Va X1 V1 X2 V1 X1 V26 X1 Va X1 V1 X2
  V1 X1 V4 X1 Va X1 V2 X8 V2 X1d V5c X1 V5 X1e V48 X8 Va Xa6 V36 X2 V26 X22 V45 Xb Va X6 Vd X13
  V3a X6 Va X6 V14 X1c V1b X2 Vf X4 V17 Xb9 V3c X64 U20.20 V33 Xc V8 X2 V1 X2 V8 X1 V2 X1 V1e X1
  V2 X2 Vc X9 Va X46 V8 X2 V2e X2 Vb X1b V48 X8 V53 Xd V49 X7 Va X56 V8 X58 V22 Xe Va X6 V9 X1 V2d
  X1 Ve Xa V1d X3 V20 X2 V16 X1 Ve X49 V7 X1 V2 X1 V2c X3 V1 X1 V2 X1 V9 X8 Va X6 V6 X1 V2 X1 V25
  X1 V2 X1 V6 X7 Va X6 V2c X4 Va Xf6 V19 X7 V11 X1 V29 X3 V1d X55 V1 Xf V32 Xd V39b X66 V6f X1 V5
  Xb Vc4 Xa4c V63 Xd V430 X10 V16 Xa Vf9b X5 V247 X1ab9 V3a X6c6 V239 X7 V1f X1 Va X4 V51 X1 Va X6
  V1e X2 V6 Xa V46 Xa Va X1 V7 X1 V15 X5 V13 X1b0 V3a Xc6 U20.20 V3b X5 U19.1b X2 V19 X2c V4b X4
  V39 X7 V11 X40 V5 Xb V7 X9 V1cd6 X29 V20 X61 V73 X21fd V4 X1 V7 X1 V2 X1 V123 Xf V1 X1d V3 X2 V1
  Xe V4 X8 V18c X904 V6b X5 Vd X3 V9 X7 Va X2 V4 I4 Xf5c Vd6 D1a.1cc75 Da.1ccc0 V3 X3 V1b4 X6 V17
  Xf V11 Xf V2e X2 V17 X9 V74 X3c Vf6 Xa V27 X2 V35 M1.1d157.1d165 M1.1d158.1d165
  M1.1d158.1d165.1d16e M1.1d158.1d165.1d16f M1.1d158.1d165.1d170 M1.1d158.1d165.1d171
  M1.1d158.1d165.1d172 Ve I8 V40 M1.1d1b9.1d165 M1.1d1ba.1d165 M1.1d1b9.1d165.1d16e
  M1.1d1ba.1d165.1d16e M1.1d1b9.1d165.1d16f M1.1d1ba.1d165.1d16f V2a X15 V46 X7a V14 Xc V14 Xc V57
  X9 V19 X87 D1a.1d39f D1a.1d3b9 D1a.1d3d3 D7.1d3ed X1 D12.1d3ed D1a.1d407 D1a.1d421 M1.61 X1
  D2.1d43b X2 M1.67 X2 D2.1d43b X2 D4.1d43b X1 D8.1d43b D4.1d455 X1 M1.66 X1 D7.1d455 X1 Db.1d455
  D1a.1d46f D1a.1d489 D2.1d4a3 X1 D4.1d4a3 X2 D8.1d4a3 X1 D7.1d4a3 X1 D1a.1d4bd D2.1d4d7 X1
  D4.1d4d7 X1 D5.1d4d7 X1 M1.6f X3 D7.1d4d7 X1 D1a.1d4f1 D1a.1d50b D1a.1d525 D1a.1d53f D1a.1d559
  D1a.1d573 D1a.1d58d D1a.1d5a7 D1a.1d5c1 D1a.1d5db D1a.1d5f5 D1a.1d60f D1a.1d629 M1.131 M1.237 X2
  D11.1d2f7 M1.3b8 D7.1d2f7 M1.2207 D11.1d311 M2.3c3 D6.1d311 M1.2202 M1.3b5 M1.3b8 M1.3ba M1.3c6
  M1.3c1 M1.3c0 D11.1d331 M1.3b8 D7.1d331 M1.2207 D11.1d34b M2.3c3 D6.1d34b M1.2202 M1.3b5 M1.3b8
  M1.3ba M1.3c6 M1.3c1 M1.3c0 D11.1d36b M1.3b8 D7.1d36b M1.2207 D11.1d385 M2.3c3 D6.1d385 M1.2202
  M1.3b5 M1.3b8 M1.3ba M1.3c6 M1.3c1 M1.3c0 D11.1d3a5 M1.3b8 D7.1d3a5 M1.2207 D11.1d3bf M2.3c3
  D6.1d3bf M1.2202 M1.3b5 M1.3b8 M1.3ba M1.3c6 M1.3c1 M1.3c0 D11.1d3df M1.3b8 D7.1d3df M1.2207
  D11.1d3f9 M2.3c3 D6.1d3f9 M1.2202 M1.3b5 M1.3b8 M1.3ba M1.3c6 M1.3c1 M1.3c0 M2.3dd X2 Da.1d79e
  Da.1d7a8 Da.1d7b2 Da.1d7bc Da.1d7c6 V28c Xf V5 X1 Vf X450 V1f X6 V6 Xd5 V7 X1 V11 X2 V7 X1 V2 X1
  V5 X5 D9.1dc00 D3.1dbff Db.1dbfe M1.44b D2.1dbfb M1.a689 M1.4d9 M1.456 M1.458 M1.4e9 M1.4af
  M1.4cf D9.1dc21 D2.1dc20 D2.1dc1e M1.441 D6.1dc1c D2.1dc1b M1.491 M1.456 M1.455 M1.45f M1.4ab
  M1.a651 M1.4b1 X21 V1 X70 V2d X3 Ve X2 Va X4 V2 X140 V1f X11 V3a X5 V1 X1d0 V2a Xd6 V2b X4 V1
  Xc0 V1f X1 V16 X8 V2 Xe0 V7 X1 V4 X1 V2 X1 Vf X1 Vc5 X2 V10 X29 U22.22 V2a X4 Va X4 V2 X311 V44
  X4c V3d Xc2 D2.1e7d9 M1.62c M1.62f X1 M1.648 M1.632 M1.62d M1.637 M1.64a D4.1e7c7 M1.633 M1.639
  M1.641 M1.635 M1.642 M1.631 M1.634 D2.1e7eb M1.62e M1.630 M1.636 M1.638 M1.63a M1.66e M1.6ba
  M1.6a1 M1.66f X1 M1.628 M1.62c X1 M1.647 X2 M1.62d X1 M1.64a D4.1e7e7 M1.633 M1.639 M1.641
  M1.635 M1.642 X1 M1.634 D2.1e80b M1.62e X1 M1.636 X1 M1.63a X6 M1.62c X4 M1.62d X1 M1.64a X1
  M1.644 X1 M1.646 M1.633 M1.639 X1 M1.635 M1.642 X1 M1.634 X2 M1.62e X1 M1.636 X1 M1.63a X1
  M1.6ba X1 M1.66f X1 M1.628 M1.62c X1 M1.647 X2 M1.62d M1.637 M1.64a M1.643 X1 D2.1e827 M1.633
  M1.639 M1.641 M1.635 M1.642 X1 M1.634 D2.1e84b M1.62e X1 M1.636 M1.638 M1.63a M1.66e X1 M1.6a1
  X1 D2.1e859 M1.62c M1.62f D2.1e83d M1.632 M1.62d M1.637 M1.64a X1 D3.1e847 M1.633 M1.639 M1.641
  M1.635 M1.642 M1.631 M1.634 D2.1e86b M1.62e M1.630 M1.636 M1.638 M1.63a X5 M1.628 M1.62c M1.62f
  X1 M1.648 M1.632 M1.62d M1.637 M1.64a X1 D3.1e867 M1.633 M1.639 M1.641 M1.635 M1.642 M1.631
  M1.634 D2.1e88b M1.62e M1.630 M1.636 M1.638 M1.63a X34 V2 X10e V2c X4 V64 Xc Vf X2 Vf X1 Vf X1
  V25 Xb M1.30.2c M1.31.2c M1.32.2c M1.33.2c M1.34.2c M1.35.2c M1.36.2c M1.37.2c M1.38.2c M1.39.2c
  V5 M1.28.61.29 M1.28.62.29 M1.28.63.29 M1.28.64.29 M1.28.65.29 M1.28.66.29 M1.28.67.29
  M1.28.68.29 M1.28.69.29 M1.28.6a.29 M1.28.6b.29 M1.28.6c.29 M1.28.6d.29 M1.28.6e.29 M1.28.6f.29
  M1.28.70.29 M1.28.71.29 M1.28.72.29 M1.28.73.29 M1.28.74.29 M1.28.75.29 M1.28.76.29 M1.28.77.29
  M1.28.78.29 M1.28.79.29 M1.28.7a.29 M1.3014.73.3015 M1.63 M1.72 M1.63.64 M1.77.7a V1 D1a.1f0cf
  M1.68.76 M1.6d.76 M1.73.64 M1.73.73 M1.70.70.76 M1.77.63 V1a M1.6d.63 M1.6d.64 M1.6d.72 V23
  M1.64.6a V1d X38 V1a M1.307b.304b M1.30b3.30b3 M1.30b5 Xd M1.624b M1.5b57 M1.53cc M1.30c7
  M1.4e8c M1.591a M1.89e3 M1.5929 M1.4ea4 M1.6620 M1.7121 M1.6599 M1.524d M1.5f8c M1.518d M1.65b0
  M1.521d M1.7d42 M1.751f M1.8ca9 M1.58f0 M1.5439 M1.6f14 M1.6295 M1.6355 M1.4e00 M1.4e09 M1.904a
  M1.5de6 M1.4e2d M1.53f3 M1.6307 M1.8d70 M1.6253 M1.7981 M1.7a7a M1.5408 M1.6e80 M1.6709 M1.6708
  M1.7533 M1.5272 M1.55b6 M1.914d X4 M1.3014.672c.3015 M1.3014.4e09.3015 M1.3014.4e8c.3015
  M1.3014.5b89.3015 M1.3014.70b9.3015 M1.3014.6253.3015 M1.3014.76d7.3015 M1.3014.52dd.3015
  M1.3014.6557.3015 X7 M1.5f97 M1.53ef Xe V6 X9a V3d9 X3 V11 X3 Vd X3 Vda X6 Vc X4 V1 Xf Vc X4 V38
  X8 Va X6 V28 X8 V1e X2 Vc X4 V2 Xe V9 X27 V158 X8 Ve X2 Vd X3 Vb X3 V39 X1 V1 X4 V10 X2 Vc X4 Va
  X7 V93 X1 V5c Da.1fbc0 V1 X405 Va6e0 X20 V111e X2 V168e X2 V1d31 Xf V26e X9a2 M1.4e3d M1.4e38
  M1.4e41 M1.20122 M1.4f60 M1.4fae M1.4fbb M1.5002 M1.507a M1.5099 M1.50e7 M1.50cf M1.349e
  M1.2063a M1.514d M1.5154 M1.5164 M1.5177 M1.2051c M1.34b9 M1.5167 M1.518d M1.2054b M1.5197
  M1.51a4 M1.4ecc M1.51ac M1.51b5 M1.291df M1.51f5 M1.5203 M1.34df M1.523b M1.5246 M1.5272 M1.5277
  M1.3515 M1.52c7 M1.52c9 M1.52e4 M1.52fa D2.2a524 M1.5317 M1.5349 M1.5351 M1.535a M1.5373 M1.537d
  M3.537f M1.20a2c M1.7070 M1.53ca M1.53df M1.20b63 M1.53eb M1.53f1 M1.5406 M1.549e M1.5438
  M1.5448 M1.5468 M1.54a2 M1.54f6 M1.5510 M1.5553 M1.5563 M2.5584 M1.5599 M1.55ab M1.55b3 M1.55c2
  M1.5716 M1.5606 M1.5717 M1.5651 M1.5674 M1.5207 M1.58ee M1.57ce M1.57f4 M1.580d M1.578b M1.5832
  M1.5831 M1.58ac M1.214e4 M1.58f2 M1.58f7 M1.5906 M1.591a M1.5922 M1.5962 M1.216a8 M1.216ea
  M1.59ec M1.5a1b M1.5a27 M1.59d8 M1.5a66 M1.36ee M1.36fc M1.5b08 M2.5b3e M1.219c8 M1.5bc3 M1.5bd8
  M1.5be7 M1.5bf3 M1.21b18 M1.5bff M1.5c06 M1.5f53 M1.5c22 M1.3781 M1.5c60 M1.5c6e M1.5cc0 M1.5c8d
  M1.21de4 M1.5d43 M1.21de6 M1.5d6e M1.5d6b M1.5d7c D2.29aa0 M1.382f M1.5dfd M1.5e28 M1.5e3d
  M1.5e69 M1.3862 M1.22183 M1.387c M1.5eb0 M1.5eb3 M1.5eb6 M1.5eca M1.2a392 M1.5efe M2.22331
  M1.8201 M2.5f22 M1.38c7 M1.232b8 M1.261da M1.5f62 M1.5f6b M1.38e3 M1.5f9a M1.5fcd M1.5fd7
  M1.5ff9 M1.6081 M1.393a M1.391c M1.6094 M1.226d4 M1.60c7 M1.6148 M1.614c M1.614e M1.614c M1.617a
  M1.618e M1.61b2 M1.61a4 M1.61af M1.61de M1.61f2 M1.61f6 M1.6210 M1.621b M1.625d M1.62b1 M1.62d4
  M1.6350 M1.22b0c M1.633d M1.62fc M1.6368 M1.6383 M1.63e4 M1.22bf1 M1.6422 M1.63c5 M1.63a9
  M1.3a2e M1.6469 M1.647e M1.649d M1.6477 M1.3a6c M1.654f M1.656c M1.2300a M1.65e3 M1.66f8 M1.6649
  M1.3b19 M1.6691 M1.3b08 M1.3ae4 M1.5192 M1.5195 M1.6700 M1.669c M1.80ad M1.43d9 M1.6717 M1.671b
  M1.6721 M1.675e M1.6753 M1.233c3 M1.3b49 M1.67fa M1.6785 M1.6852 M1.6885 M1.2346d M1.688e
  M1.681f M1.6914 M1.3b9d M1.6942 M1.69a3 M1.69ea M1.6aa8 M1.236a3 M1.6adb M1.3c18 M1.6b21
  M1.238a7 M1.6b54 M1.3c4e M1.6b72 M1.6b9f D2.28d3b M1.23a8d M1.21d0b M1.23afa M1.6c4e M1.23cbc
  M1.6cbf M1.6ccd M1.6c67 M1.6d16 M1.6d3e M1.6d77 M1.6d41 M1.6d69 M1.6d78 M1.6d85 M1.23d1e M1.6d34
  M1.6e2f M1.6e6e M1.3d33 M1.6ecb M1.6ec7 M1.23ed1 M1.6df9 M1.6f6e M1.23f5e M1.23f8e M1.6fc6
  M1.7039 M1.701e M1.701b M1.3d96 M1.704a M1.707d M1.7077 M1.70ad M1.20525 M1.7145 M1.24263
  M1.719c M1.243ab M1.7228 M1.7235 M1.7250 M1.24608 M1.7280 M1.7295 M1.24735 M1.24814 M1.737a
  M1.738b M1.3eac M1.73a5 M2.3eb8 M1.7447 M1.745c M1.7471 M1.7485 M1.74ca M1.3f1b M1.7524 M1.24c36
  M1.753e M1.24c92 M1.7570 M1.2219f M1.7610 M1.24fa1 M1.24fb8 M1.25044 M1.3ffc M1.4008 M1.76f4
  M1.250f3 M1.250f2 M1.25119 M1.25133 D2.28227 M1.771f M1.774a M1.4039 M1.778b M1.4046 M1.4096
  M1.2541d M1.784e M1.788c M1.78cc M1.40e3 M1.25626 M1.7956 M1.2569a M1.256c5 M1.798f M1.79eb
  M1.412f M1.7a40 M1.7a4a M1.7a4f M1.2597c M2.25aa7 M1.7aee M1.4202 M1.25bab M1.7bc6 M1.7bc9
  M1.4227 M1.25c80 M1.7cd2 M1.42a0 M1.7ce8 M1.7ce3 M1.7d00 M1.25f86 M1.7d63 M1.4301 M1.7dc7
  M1.7e02 M1.7e45 M1.4334 M1.26228 M1.26247 M1.4359 M1.262d9 M1.7f7a M1.2633e M1.7f95 M1.7ffa
  M1.8005 M1.264da M1.26523 M1.8060 M1.265a8 M1.8070 M1.2335f M1.43d5 M1.80b2 M1.8103 M1.440b
  M1.813e M1.5ab5 M1.267a7 M1.267b5 M1.23393 M1.2339c M1.8201 M1.8204 M1.8f9e M1.446b M1.8291
  M1.828b M1.829d M1.52b3 M1.82b1 M1.82b3 M1.82bd M1.82e6 M1.26b3c M1.82e5 M1.831d M1.8363 M1.83ad
  M1.8323 M1.83bd M1.83e7 M1.8457 M1.8353 M1.83ca M1.83cc M1.83dc M1.26c36 M1.26d6b M1.26cd5
  M1.452b M1.84f1 M1.84f3 M1.8516 M1.273ca M1.8564 M1.26f2c M1.455d M1.4561 M1.26fb1 M1.270d2
  M1.456b M1.8650 M1.865c M1.8667 M1.8669 M1.86a9 M1.8688 M1.870e M1.86e2 M1.8779 M1.8728 M1.876b
  M1.8786 M1.45d7 M1.87e1 M1.8801 M1.45f9 M1.8860 M1.8863 M1.27667 M1.88d7 M1.88de M1.4635 M1.88fa
  M1.34bb M1.278ae M1.27966 M1.46be M1.46c7 M1.8aa0 M1.8aed M1.8b8a M1.8c55 M1.27ca8 M1.8cab
  M1.8cc1 M1.8d1b M1.8d77 M1.27f2f M1.20804 M1.8dcb M1.8dbc M1.8df0 M1.208de M1.8ed4 M1.8f38
  M1.285d2 M1.285ed M1.9094 M1.90f1 M1.9111 M1.2872e M1.911b M1.9238 D2.26711 M1.927c M1.93f9
  M1.9415 M1.28bfa M1.958b M1.4995 M1.95b7 M1.28d77 M1.49e6 M1.96c3 M1.5db2 M1.9723 M1.29145
  M1.2921a M1.4a6e M1.4a76 M1.97e0 M1.2940a M1.4ab2 M1.29496 M2.980b M1.9829 M1.295b6 M1.98e2
  M1.4b33 M1.9929 M1.99a7 M1.99c2 M1.99fe M1.4bce M1.29b30 M1.9b12 M1.9c40 M1.9cfd M1.4cce M1.4ced
  M1.9d67 M1.2a0ce M1.4cf8 M1.2a105 M1.2a20e M1.2a291 M1.9ebb M1.4d56 M1.9ef9 M1.9efe M1.9f05
  M1.9f0f M1.9f16 M1.9f3b M1.2a600 X5e2 V134b X5 V212a Xacc86 If0 X2fe10"

def Fate.ofRun (run : CharRun) : Fate :=
  match run.name with
  | "V" => kept
  | "I" => ignored
  | "U" => raised (run.numbers.headD 0)
  | "D" => lowered (run.numbers.headD 0)
  | "A" => paired
  | "M" => replaced (run.numbers.map Char.ofNat)
  | _ => refused

def fates : Runs Fate :=
  .ofText Fate.ofRun fateText

def Fate.apply (start : Nat) (c : Char) : Fate → Option (List Char)
  | kept => some [c]
  | refused => none
  | ignored => some []
  | raised n => some [Char.ofNat (c.toNat + n)]
  | lowered n => some [Char.ofNat (c.toNat - n)]
  | paired => some [Char.ofNat (if (c.toNat - start) % 2 = 0 then c.toNat + 1 else c.toNat)]
  | replaced text => some text

def mapChar? (c : Char) : Option (List Char) :=
  (fates.find? c).bind fun (start, fate) => fate.apply start c

end KeyCustody.Domain
