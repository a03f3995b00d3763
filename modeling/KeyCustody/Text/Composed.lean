import KeyCustody.Text.CombiningClass
import Std.Data.HashMap

set_option autoImplicit false

namespace KeyCustody.Composed

open CombiningClass

-- Characters made of a pair (`P`, with the two of them), and runs of others (`N`).
def pairText : String := "
  Nc0 P1.41.300 P1.41.301 P1.41.302 P1.41.303 P1.41.308 P1.41.30a N1 P1.43.327 P1.45.300 P1.45.301
  P1.45.302 P1.45.308 P1.49.300 P1.49.301 P1.49.302 P1.49.308 N1 P1.4e.303 P1.4f.300 P1.4f.301
  P1.4f.302 P1.4f.303 P1.4f.308 N2 P1.55.300 P1.55.301 P1.55.302 P1.55.308 P1.59.301 N2 P1.61.300
  P1.61.301 P1.61.302 P1.61.303 P1.61.308 P1.61.30a N1 P1.63.327 P1.65.300 P1.65.301 P1.65.302
  P1.65.308 P1.69.300 P1.69.301 P1.69.302 P1.69.308 N1 P1.6e.303 P1.6f.300 P1.6f.301 P1.6f.302
  P1.6f.303 P1.6f.308 N2 P1.75.300 P1.75.301 P1.75.302 P1.75.308 P1.79.301 N1 P1.79.308 P1.41.304
  P1.61.304 P1.41.306 P1.61.306 P1.41.328 P1.61.328 P1.43.301 P1.63.301 P1.43.302 P1.63.302
  P1.43.307 P1.63.307 P1.43.30c P1.63.30c P1.44.30c P1.64.30c N2 P1.45.304 P1.65.304 P1.45.306
  P1.65.306 P1.45.307 P1.65.307 P1.45.328 P1.65.328 P1.45.30c P1.65.30c P1.47.302 P1.67.302
  P1.47.306 P1.67.306 P1.47.307 P1.67.307 P1.47.327 P1.67.327 P1.48.302 P1.68.302 N2 P1.49.303
  P1.69.303 P1.49.304 P1.69.304 P1.49.306 P1.69.306 P1.49.328 P1.69.328 P1.49.307 N3 P1.4a.302
  P1.6a.302 P1.4b.327 P1.6b.327 N1 P1.4c.301 P1.6c.301 P1.4c.327 P1.6c.327 P1.4c.30c P1.6c.30c N4
  P1.4e.301 P1.6e.301 P1.4e.327 P1.6e.327 P1.4e.30c P1.6e.30c N3 P1.4f.304 P1.6f.304 P1.4f.306
  P1.6f.306 P1.4f.30b P1.6f.30b N2 P1.52.301 P1.72.301 P1.52.327 P1.72.327 P1.52.30c P1.72.30c
  P1.53.301 P1.73.301 P1.53.302 P1.73.302 P1.53.327 P1.73.327 P1.53.30c P1.73.30c P1.54.327
  P1.74.327 P1.54.30c P1.74.30c N2 P1.55.303 P1.75.303 P1.55.304 P1.75.304 P1.55.306 P1.75.306
  P1.55.30a P1.75.30a P1.55.30b P1.75.30b P1.55.328 P1.75.328 P1.57.302 P1.77.302 P1.59.302
  P1.79.302 P1.59.308 P1.5a.301 P1.7a.301 P1.5a.307 P1.7a.307 P1.5a.30c P1.7a.30c N21 P1.4f.31b
  P1.6f.31b Nd P1.55.31b P1.75.31b N1c P1.41.30c P1.61.30c P1.49.30c P1.69.30c P1.4f.30c P1.6f.30c
  P1.55.30c P1.75.30c P1.dc.304 P1.fc.304 P1.dc.301 P1.fc.301 P1.dc.30c P1.fc.30c P1.dc.300
  P1.fc.300 N1 P1.c4.304 P1.e4.304 P1.226.304 P1.227.304 P1.c6.304 P1.e6.304 N2 P1.47.30c
  P1.67.30c P1.4b.30c P1.6b.30c P1.4f.328 P1.6f.328 P1.1ea.304 P1.1eb.304 P1.1b7.30c P1.292.30c
  P1.6a.30c N3 P1.47.301 P1.67.301 N2 P1.4e.300 P1.6e.300 P1.c5.301 P1.e5.301 P1.c6.301 P1.e6.301
  P1.d8.301 P1.f8.301 P1.41.30f P1.61.30f P1.41.311 P1.61.311 P1.45.30f P1.65.30f P1.45.311
  P1.65.311 P1.49.30f P1.69.30f P1.49.311 P1.69.311 P1.4f.30f P1.6f.30f P1.4f.311 P1.6f.311
  P1.52.30f P1.72.30f P1.52.311 P1.72.311 P1.55.30f P1.75.30f P1.55.311 P1.75.311 P1.53.326
  P1.73.326 P1.54.326 P1.74.326 N2 P1.48.30c P1.68.30c N6 P1.41.307 P1.61.307 P1.45.327 P1.65.327
  P1.d6.304 P1.f6.304 P1.d5.304 P1.f5.304 P1.4f.307 P1.6f.307 P1.22e.304 P1.22f.304 P1.59.304
  P1.79.304 N151 P1.a8.301 P1.391.301 N1 P1.395.301 P1.397.301 P1.399.301 N1 P1.39f.301 N1
  P1.3a5.301 P1.3a9.301 P1.3ca.301 N19 P1.399.308 P1.3a5.308 P1.3b1.301 P1.3b5.301 P1.3b7.301
  P1.3b9.301 P1.3cb.301 N19 P1.3b9.308 P1.3c5.308 P1.3bf.301 P1.3c5.301 P1.3c9.301 N4 P1.3d2.301
  P1.3d2.308 N2b P1.415.300 P1.415.308 N1 P1.413.301 N3 P1.406.308 N4 P1.41a.301 P1.418.300
  P1.423.306 Na P1.418.306 N1f P1.438.306 N16 P1.435.300 P1.435.308 N1 P1.433.301 N3 P1.456.308 N4
  P1.43a.301 P1.438.300 P1.443.306 N17 P1.474.30f P1.475.30f N49 P1.416.306 P1.436.306 Nd
  P1.410.306 P1.430.306 P1.410.308 P1.430.308 N2 P1.415.306 P1.435.306 N2 P1.4d8.308 P1.4d9.308
  P1.416.308 P1.436.308 P1.417.308 P1.437.308 N2 P1.418.304 P1.438.304 P1.418.308 P1.438.308
  P1.41e.308 P1.43e.308 N2 P1.4e8.308 P1.4e9.308 P1.42d.308 P1.44d.308 P1.423.304 P1.443.304
  P1.423.308 P1.443.308 P1.423.30b P1.443.30b P1.427.308 P1.447.308 N2 P1.42b.308 P1.44b.308 N128
  P1.627.653 P1.627.654 P1.648.654 P1.627.655 P1.64a.654 N99 P1.6d5.654 N1 P1.6c1.654 N10
  P1.6d2.654 N255 P1.928.93c N7 P1.930.93c N2 P1.933.93c N96 P1.9c7.9be P1.9c7.9d7 N17b P1.b47.b56
  N2 P1.b47.b3e P1.b47.b57 N47 P1.b92.bd7 N35 P1.bc6.bbe P1.bc7.bbe P1.bc6.bd7 N7b P1.c46.c56 N77
  P1.cbf.cd5 N6 P1.cc6.cd5 P1.cc6.cd6 N1 P1.cc6.cc2 P1.cca.cd5 N7e P1.d46.d3e P1.d47.d3e
  P1.d46.d57 N8d P1.dd9.dca N1 P1.dd9.dcf P1.ddc.dca P1.dd9.ddf N247 P1.1025.102e Nadf
  P1.1b05.1b35 N1 P1.1b07.1b35 N1 P1.1b09.1b35 N1 P1.1b0b.1b35 N1 P1.1b0d.1b35 N3 P1.1b11.1b35 N28
  P1.1b3a.1b35 N1 P1.1b3c.1b35 N2 P1.1b3e.1b35 P1.1b3f.1b35 N1 P1.1b42.1b35 N2bc P1.41.325
  P1.61.325 P1.42.307 P1.62.307 P1.42.323 P1.62.323 P1.42.331 P1.62.331 P1.c7.301 P1.e7.301
  P1.44.307 P1.64.307 P1.44.323 P1.64.323 P1.44.331 P1.64.331 P1.44.327 P1.64.327 P1.44.32d
  P1.64.32d P1.112.300 P1.113.300 P1.112.301 P1.113.301 P1.45.32d P1.65.32d P1.45.330 P1.65.330
  P1.228.306 P1.229.306 P1.46.307 P1.66.307 P1.47.304 P1.67.304 P1.48.307 P1.68.307 P1.48.323
  P1.68.323 P1.48.308 P1.68.308 P1.48.327 P1.68.327 P1.48.32e P1.68.32e P1.49.330 P1.69.330
  P1.cf.301 P1.ef.301 P1.4b.301 P1.6b.301 P1.4b.323 P1.6b.323 P1.4b.331 P1.6b.331 P1.4c.323
  P1.6c.323 P1.1e36.304 P1.1e37.304 P1.4c.331 P1.6c.331 P1.4c.32d P1.6c.32d P1.4d.301 P1.6d.301
  P1.4d.307 P1.6d.307 P1.4d.323 P1.6d.323 P1.4e.307 P1.6e.307 P1.4e.323 P1.6e.323 P1.4e.331
  P1.6e.331 P1.4e.32d P1.6e.32d P1.d5.301 P1.f5.301 P1.d5.308 P1.f5.308 P1.14c.300 P1.14d.300
  P1.14c.301 P1.14d.301 P1.50.301 P1.70.301 P1.50.307 P1.70.307 P1.52.307 P1.72.307 P1.52.323
  P1.72.323 P1.1e5a.304 P1.1e5b.304 P1.52.331 P1.72.331 P1.53.307 P1.73.307 P1.53.323 P1.73.323
  P1.15a.307 P1.15b.307 P1.160.307 P1.161.307 P1.1e62.307 P1.1e63.307 P1.54.307 P1.74.307
  P1.54.323 P1.74.323 P1.54.331 P1.74.331 P1.54.32d P1.74.32d P1.55.324 P1.75.324 P1.55.330
  P1.75.330 P1.55.32d P1.75.32d P1.168.301 P1.169.301 P1.16a.308 P1.16b.308 P1.56.303 P1.76.303
  P1.56.323 P1.76.323 P1.57.300 P1.77.300 P1.57.301 P1.77.301 P1.57.308 P1.77.308 P1.57.307
  P1.77.307 P1.57.323 P1.77.323 P1.58.307 P1.78.307 P1.58.308 P1.78.308 P1.59.307 P1.79.307
  P1.5a.302 P1.7a.302 P1.5a.323 P1.7a.323 P1.5a.331 P1.7a.331 P1.68.331 P1.74.308 P1.77.30a
  P1.79.30a N1 P1.17f.307 N4 P1.41.323 P1.61.323 P1.41.309 P1.61.309 P1.c2.301 P1.e2.301 P1.c2.300
  P1.e2.300 P1.c2.309 P1.e2.309 P1.c2.303 P1.e2.303 P1.1ea0.302 P1.1ea1.302 P1.102.301 P1.103.301
  P1.102.300 P1.103.300 P1.102.309 P1.103.309 P1.102.303 P1.103.303 P1.1ea0.306 P1.1ea1.306
  P1.45.323 P1.65.323 P1.45.309 P1.65.309 P1.45.303 P1.65.303 P1.ca.301 P1.ea.301 P1.ca.300
  P1.ea.300 P1.ca.309 P1.ea.309 P1.ca.303 P1.ea.303 P1.1eb8.302 P1.1eb9.302 P1.49.309 P1.69.309
  P1.49.323 P1.69.323 P1.4f.323 P1.6f.323 P1.4f.309 P1.6f.309 P1.d4.301 P1.f4.301 P1.d4.300
  P1.f4.300 P1.d4.309 P1.f4.309 P1.d4.303 P1.f4.303 P1.1ecc.302 P1.1ecd.302 P1.1a0.301 P1.1a1.301
  P1.1a0.300 P1.1a1.300 P1.1a0.309 P1.1a1.309 P1.1a0.303 P1.1a1.303 P1.1a0.323 P1.1a1.323
  P1.55.323 P1.75.323 P1.55.309 P1.75.309 P1.1af.301 P1.1b0.301 P1.1af.300 P1.1b0.300 P1.1af.309
  P1.1b0.309 P1.1af.303 P1.1b0.303 P1.1af.323 P1.1b0.323 P1.59.300 P1.79.300 P1.59.323 P1.79.323
  P1.59.309 P1.79.309 P1.59.303 P1.79.303 N6 P1.3b1.313 P1.3b1.314 P1.1f00.300 P1.1f01.300
  P1.1f00.301 P1.1f01.301 P1.1f00.342 P1.1f01.342 P1.391.313 P1.391.314 P1.1f08.300 P1.1f09.300
  P1.1f08.301 P1.1f09.301 P1.1f08.342 P1.1f09.342 P1.3b5.313 P1.3b5.314 P1.1f10.300 P1.1f11.300
  P1.1f10.301 P1.1f11.301 N2 P1.395.313 P1.395.314 P1.1f18.300 P1.1f19.300 P1.1f18.301 P1.1f19.301
  N2 P1.3b7.313 P1.3b7.314 P1.1f20.300 P1.1f21.300 P1.1f20.301 P1.1f21.301 P1.1f20.342 P1.1f21.342
  P1.397.313 P1.397.314 P1.1f28.300 P1.1f29.300 P1.1f28.301 P1.1f29.301 P1.1f28.342 P1.1f29.342
  P1.3b9.313 P1.3b9.314 P1.1f30.300 P1.1f31.300 P1.1f30.301 P1.1f31.301 P1.1f30.342 P1.1f31.342
  P1.399.313 P1.399.314 P1.1f38.300 P1.1f39.300 P1.1f38.301 P1.1f39.301 P1.1f38.342 P1.1f39.342
  P1.3bf.313 P1.3bf.314 P1.1f40.300 P1.1f41.300 P1.1f40.301 P1.1f41.301 N2 P1.39f.313 P1.39f.314
  P1.1f48.300 P1.1f49.300 P1.1f48.301 P1.1f49.301 N2 P1.3c5.313 P1.3c5.314 P1.1f50.300 P1.1f51.300
  P1.1f50.301 P1.1f51.301 P1.1f50.342 P1.1f51.342 N1 P1.3a5.314 N1 P1.1f59.300 N1 P1.1f59.301 N1
  P1.1f59.342 P1.3c9.313 P1.3c9.314 P1.1f60.300 P1.1f61.300 P1.1f60.301 P1.1f61.301 P1.1f60.342
  P1.1f61.342 P1.3a9.313 P1.3a9.314 P1.1f68.300 P1.1f69.300 P1.1f68.301 P1.1f69.301 P1.1f68.342
  P1.1f69.342 P1.3b1.300 N1 P1.3b5.300 N1 P1.3b7.300 N1 P1.3b9.300 N1 P1.3bf.300 N1 P1.3c5.300 N1
  P1.3c9.300 N3 P1.1f00.345 P1.1f01.345 P1.1f02.345 P1.1f03.345 P1.1f04.345 P1.1f05.345
  P1.1f06.345 P1.1f07.345 P1.1f08.345 P1.1f09.345 P1.1f0a.345 P1.1f0b.345 P1.1f0c.345 P1.1f0d.345
  P1.1f0e.345 P1.1f0f.345 P1.1f20.345 P1.1f21.345 P1.1f22.345 P1.1f23.345 P1.1f24.345 P1.1f25.345
  P1.1f26.345 P1.1f27.345 P1.1f28.345 P1.1f29.345 P1.1f2a.345 P1.1f2b.345 P1.1f2c.345 P1.1f2d.345
  P1.1f2e.345 P1.1f2f.345 P1.1f60.345 P1.1f61.345 P1.1f62.345 P1.1f63.345 P1.1f64.345 P1.1f65.345
  P1.1f66.345 P1.1f67.345 P1.1f68.345 P1.1f69.345 P1.1f6a.345 P1.1f6b.345 P1.1f6c.345 P1.1f6d.345
  P1.1f6e.345 P1.1f6f.345 P1.3b1.306 P1.3b1.304 P1.1f70.345 P1.3b1.345 P1.3ac.345 N1 P1.3b1.342
  P1.1fb6.345 P1.391.306 P1.391.304 P1.391.300 N1 P1.391.345 N4 P1.a8.342 P1.1f74.345 P1.3b7.345
  P1.3ae.345 N1 P1.3b7.342 P1.1fc6.345 P1.395.300 N1 P1.397.300 N1 P1.397.345 P1.1fbf.300
  P1.1fbf.301 P1.1fbf.342 P1.3b9.306 P1.3b9.304 P1.3ca.300 N3 P1.3b9.342 P1.3ca.342 P1.399.306
  P1.399.304 P1.399.300 N2 P1.1ffe.300 P1.1ffe.301 P1.1ffe.342 P1.3c5.306 P1.3c5.304 P1.3cb.300 N1
  P1.3c1.313 P1.3c1.314 P1.3c5.342 P1.3cb.342 P1.3a5.306 P1.3a5.304 P1.3a5.300 N1 P1.3a1.314
  P1.a8.300 N4 P1.1f7c.345 P1.3c9.345 P1.3ce.345 N1 P1.3c9.342 P1.1ff6.345 P1.39f.300 N1
  P1.3a9.300 N1 P1.3a9.345 N19d P1.2190.338 P1.2192.338 N12 P1.2194.338 N1e P1.21d0.338
  P1.21d4.338 P1.21d2.338 N34 P1.2203.338 N4 P1.2208.338 N2 P1.220b.338 N17 P1.2223.338 N1
  P1.2225.338 N1a P1.223c.338 N2 P1.2243.338 N2 P1.2245.338 N1 P1.2248.338 N16 P1.3d.338 N1
  P1.2261.338 Na P1.224d.338 P1.3c.338 P1.3e.338 P1.2264.338 P1.2265.338 N2 P1.2272.338
  P1.2273.338 N2 P1.2276.338 P1.2277.338 N6 P1.227a.338 P1.227b.338 N2 P1.2282.338 P1.2283.338 N2
  P1.2286.338 P1.2287.338 N22 P1.22a2.338 P1.22a8.338 P1.22a9.338 P1.22ab.338 N30 P1.227c.338
  P1.227d.338 P1.2291.338 P1.2292.338 N6 P1.22b2.338 P1.22b3.338 P1.22b4.338 P1.22b5.338 Nd5e
  P1.304b.3099 N1 P1.304d.3099 N1 P1.304f.3099 N1 P1.3051.3099 N1 P1.3053.3099 N1 P1.3055.3099 N1
  P1.3057.3099 N1 P1.3059.3099 N1 P1.305b.3099 N1 P1.305d.3099 N1 P1.305f.3099 N1 P1.3061.3099 N2
  P1.3064.3099 N1 P1.3066.3099 N1 P1.3068.3099 N6 P1.306f.3099 P1.306f.309a N1 P1.3072.3099
  P1.3072.309a N1 P1.3075.3099 P1.3075.309a N1 P1.3078.3099 P1.3078.309a N1 P1.307b.3099
  P1.307b.309a N16 P1.3046.3099 N9 P1.309d.3099 Nd P1.30ab.3099 N1 P1.30ad.3099 N1 P1.30af.3099 N1
  P1.30b1.3099 N1 P1.30b3.3099 N1 P1.30b5.3099 N1 P1.30b7.3099 N1 P1.30b9.3099 N1 P1.30bb.3099 N1
  P1.30bd.3099 N1 P1.30bf.3099 N1 P1.30c1.3099 N2 P1.30c4.3099 N1 P1.30c6.3099 N1 P1.30c8.3099 N6
  P1.30cf.3099 P1.30cf.309a N1 P1.30d2.3099 P1.30d2.309a N1 P1.30d5.3099 P1.30d5.309a N1
  P1.30d8.3099 P1.30d8.309a N1 P1.30db.3099 P1.30db.309a N16 P1.30a6.3099 N2 P1.30ef.3099
  P1.30f0.3099 P1.30f1.3099 P1.30f2.3099 N3 P1.30fd.3099 Nd4ca P1.105d2.307 N1a P1.105da.307 Nab5
  P1.11099.110ba N1 P1.1109b.110ba Ne P1.110a5.110ba N82 P1.11131.11127 P1.11132.11127 N21b
  P1.11347.1133e P1.11347.11357 N36 P1.11382.113c9 N1 P1.11384.113bb N8 P1.1138b.113c2 N2
  P1.11390.113c9 N33 P1.113c2.113c2 N1 P1.113c2.113b8 P1.113c2.113c9 Nf2 P1.114b9.114ba
  P1.114b9.114b0 N1 P1.114b9.114bd Nfb P1.115b8.115af P1.115b9.115af N37c P1.11935.11930 N47e8
  P1.1611e.1611e P1.1611e.16129 P1.1611e.1611f P1.16129.1611f P1.1611e.16120 P1.16121.1611f
  P1.16122.1611f P1.16121.16120 Nc3f P1.16d67.16d67 P1.16d63.16d67 P1.16d69.16d67 Nf9295"

def pairs : List (Char × Char × Char) :=
  (CharRun.ofText pairText).filterMap fun run =>
    match run.numbers with
    | [first, second] => some (Char.ofNat run.start, Char.ofNat first, Char.ofNat second)
    | _ => none

def parts : Std.HashMap Nat (Char × Char) :=
  .ofList (pairs.map fun (whole, pair) => (whole.toNat, pair))

def wholes : Std.HashMap (Nat × Nat) Char :=
  .ofList (pairs.map fun (whole, first, second) => ((first.toNat, second.toNat), whole))

def leads : Nat := 0x1100

def vowels : Nat := 0x1161

def trails : Nat := 0x11A7

def syllables : Nat := 0xAC00

def isSyllable (n : Nat) : Bool :=
  syllables ≤ n && n < syllables + 19 * 21 * 28

def syllableParts (n : Nat) : List Char :=
  let index := n - syllables
  let front := [Char.ofNat (leads + index / 588), Char.ofNat (vowels + index % 588 / 28)]
  if index % 28 = 0 then front else front ++ [Char.ofNat (trails + index % 28)]

def syllable? (a b : Nat) : Option Char :=
  if leads ≤ a ∧ a < leads + 19 ∧ vowels ≤ b ∧ b < vowels + 21 then
    some (Char.ofNat (syllables + ((a - leads) * 21 + (b - vowels)) * 28))
  else if isSyllable a ∧ (a - syllables) % 28 = 0 ∧ trails < b ∧ b < trails + 28 then
    some (Char.ofNat (a + (b - trails)))
  else none

def apart : Nat → Char → List Char
  | 0, c => [c]
  | depth + 1, c =>
      if isSyllable c.toNat then syllableParts c.toNat
      else
        match parts[c.toNat]? with
        | some (first, second) => apart depth first ++ [second]
        | none => [c]

def ordered (text : List Char) : List Char :=
  (text.splitBy fun _ c => classOf c ≠ 0).flatMap
    (List.mergeSort · fun a b => classOf a ≤ classOf b)

def whole? (first second : Char) : Option Char :=
  match syllable? first.toNat second.toNat with
  | some c => some c
  | none => wholes[(first.toNat, second.toNat)]?

structure Composing where
  done : List Char
  base : Option Char
  marks : List Char

def Composing.flush (state : Composing) : List Char :=
  state.marks ++ state.base.toList ++ state.done

-- A mark does not reach the base past one of the same class, nor anything past another base.
def Composing.add (state : Composing) (c : Char) : Composing :=
  let reaches := match state.marks with
    | [] => true
    | mark :: _ => classOf mark < classOf c
  match state.base.bind fun base => if reaches then whole? base c else none with
  | some whole => { state with base := some whole }
  | none =>
      if classOf c = 0 then { done := state.flush, base := some c, marks := [] }
      else { state with marks := c :: state.marks }

def compose (text : List Char) : List Char :=
  ((ordered (text.flatMap (apart 4))).foldl Composing.add ⟨[], none, []⟩).flush.reverse

end KeyCustody.Composed
