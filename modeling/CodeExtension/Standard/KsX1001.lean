import CodeExtension.CodeTable

/-! KS X 1001, the Korean set of hangul syllables, hanja and symbols. -/
namespace CodeExtension.Standard

def ksX1001Columns : List Column := [
  ⟨0x2120, 0x0000_3000_3001_3002_00B7_2025_2026_00A8_3003_00AD_2015_2225_FF3C_223C_2018_2019⟩,
  ⟨0x2130, 0x201C_201D_3014_3015_3008_3009_300A_300B_300C_300D_300E_300F_3010_3011_00B1_00D7⟩,
  ⟨0x2140, 0x00F7_2260_2264_2265_221E_2234_00B0_2032_2033_2103_212B_FFE0_FFE1_FFE5_2642_2640⟩,
  ⟨0x2150, 0x2220_22A5_2312_2202_2207_2261_2252_00A7_203B_2606_2605_25CB_25CF_25CE_25C7_25C6⟩,
  ⟨0x2160, 0x25A1_25A0_25B3_25B2_25BD_25BC_2192_2190_2191_2193_2194_3013_226A_226B_221A_223D⟩,
  ⟨0x2170, 0x221D_2235_222B_222C_2208_220B_2286_2287_2282_2283_222A_2229_2227_2228_FFE2_0000⟩,
  ⟨0x2220, 0x0000_21D2_21D4_2200_2203_00B4_FF5E_02C7_02D8_02DD_02DA_02D9_00B8_02DB_00A1_00BF⟩,
  ⟨0x2230, 0x02D0_222E_2211_220F_00A4_2109_2030_25C1_25C0_25B7_25B6_2664_2660_2661_2665_2667⟩,
  ⟨0x2240, 0x2663_2299_25C8_25A3_25D0_25D1_2592_25A4_25A5_25A8_25A7_25A6_25A9_2668_260F_260E⟩,
  ⟨0x2250, 0x261C_261E_00B6_2020_2021_2195_2197_2199_2196_2198_266D_2669_266A_266C_327F_321C⟩,
  ⟨0x2260, 0x2116_33C7_2122_33C2_33D8_2121_20AC_00AE_0000_0000_0000_0000_0000_0000_0000_0000⟩,
  ⟨0x2320, 0x0000_FF01_FF02_FF03_FF04_FF05_FF06_FF07_FF08_FF09_FF0A_FF0B_FF0C_FF0D_FF0E_FF0F⟩,
  ⟨0x2330, 0xFF10_FF11_FF12_FF13_FF14_FF15_FF16_FF17_FF18_FF19_FF1A_FF1B_FF1C_FF1D_FF1E_FF1F⟩,
  ⟨0x2340, 0xFF20_FF21_FF22_FF23_FF24_FF25_FF26_FF27_FF28_FF29_FF2A_FF2B_FF2C_FF2D_FF2E_FF2F⟩,
  ⟨0x2350, 0xFF30_FF31_FF32_FF33_FF34_FF35_FF36_FF37_FF38_FF39_FF3A_FF3B_FFE6_FF3D_FF3E_FF3F⟩,
  ⟨0x2360, 0xFF40_FF41_FF42_FF43_FF44_FF45_FF46_FF47_FF48_FF49_FF4A_FF4B_FF4C_FF4D_FF4E_FF4F⟩,
  ⟨0x2370, 0xFF50_FF51_FF52_FF53_FF54_FF55_FF56_FF57_FF58_FF59_FF5A_FF5B_FF5C_FF5D_FFE3_0000⟩,
  ⟨0x2420, 0x0000_3131_3132_3133_3134_3135_3136_3137_3138_3139_313A_313B_313C_313D_313E_313F⟩,
  ⟨0x2430, 0x3140_3141_3142_3143_3144_3145_3146_3147_3148_3149_314A_314B_314C_314D_314E_314F⟩,
  ⟨0x2440, 0x3150_3151_3152_3153_3154_3155_3156_3157_3158_3159_315A_315B_315C_315D_315E_315F⟩,
  ⟨0x2450, 0x3160_3161_3162_3163_3164_3165_3166_3167_3168_3169_316A_316B_316C_316D_316E_316F⟩,
  ⟨0x2460, 0x3170_3171_3172_3173_3174_3175_3176_3177_3178_3179_317A_317B_317C_317D_317E_317F⟩,
  ⟨0x2470, 0x3180_3181_3182_3183_3184_3185_3186_3187_3188_3189_318A_318B_318C_318D_318E_0000⟩,
  ⟨0x2520, 0x0000_2170_2171_2172_2173_2174_2175_2176_2177_2178_2179_0000_0000_0000_0000_0000⟩,
  ⟨0x2530, 0x2160_2161_2162_2163_2164_2165_2166_2167_2168_2169_0000_0000_0000_0000_0000_0000⟩,
  ⟨0x2540, 0x0000_0391_0392_0393_0394_0395_0396_0397_0398_0399_039A_039B_039C_039D_039E_039F⟩,
  ⟨0x2550, 0x03A0_03A1_03A3_03A4_03A5_03A6_03A7_03A8_03A9_0000_0000_0000_0000_0000_0000_0000⟩,
  ⟨0x2560, 0x0000_03B1_03B2_03B3_03B4_03B5_03B6_03B7_03B8_03B9_03BA_03BB_03BC_03BD_03BE_03BF⟩,
  ⟨0x2570, 0x03C0_03C1_03C3_03C4_03C5_03C6_03C7_03C8_03C9_0000_0000_0000_0000_0000_0000_0000⟩,
  ⟨0x2620, 0x0000_2500_2502_250C_2510_2518_2514_251C_252C_2524_2534_253C_2501_2503_250F_2513⟩,
  ⟨0x2630, 0x251B_2517_2523_2533_252B_253B_254B_2520_252F_2528_2537_253F_251D_2530_2525_2538⟩,
  ⟨0x2640, 0x2542_2512_2511_251A_2519_2516_2515_250E_250D_251E_251F_2521_2522_2526_2527_2529⟩,
  ⟨0x2650, 0x252A_252D_252E_2531_2532_2535_2536_2539_253A_253D_253E_2540_2541_2543_2544_2545⟩,
  ⟨0x2660, 0x2546_2547_2548_2549_254A_0000_0000_0000_0000_0000_0000_0000_0000_0000_0000_0000⟩,
  ⟨0x2720, 0x0000_3395_3396_3397_2113_3398_33C4_33A3_33A4_33A5_33A6_3399_339A_339B_339C_339D⟩,
  ⟨0x2730, 0x339E_339F_33A0_33A1_33A2_33CA_338D_338E_338F_33CF_3388_3389_33C8_33A7_33A8_33B0⟩,
  ⟨0x2740, 0x33B1_33B2_33B3_33B4_33B5_33B6_33B7_33B8_33B9_3380_3381_3382_3383_3384_33BA_33BB⟩,
  ⟨0x2750, 0x33BC_33BD_33BE_33BF_3390_3391_3392_3393_3394_2126_33C0_33C1_338A_338B_338C_33D6⟩,
  ⟨0x2760, 0x33C5_33AD_33AE_33AF_33DB_33A9_33AA_33AB_33AC_33DD_33D0_33D3_33C3_33C9_33DC_33C6⟩,
  ⟨0x2820, 0x0000_00C6_00D0_00AA_0126_0000_0132_0000_013F_0141_00D8_0152_00BA_00DE_0166_014A⟩,
  ⟨0x2830, 0x0000_3260_3261_3262_3263_3264_3265_3266_3267_3268_3269_326A_326B_326C_326D_326E⟩,
  ⟨0x2840, 0x326F_3270_3271_3272_3273_3274_3275_3276_3277_3278_3279_327A_327B_24D0_24D1_24D2⟩,
  ⟨0x2850, 0x24D3_24D4_24D5_24D6_24D7_24D8_24D9_24DA_24DB_24DC_24DD_24DE_24DF_24E0_24E1_24E2⟩,
  ⟨0x2860, 0x24E3_24E4_24E5_24E6_24E7_24E8_24E9_2460_2461_2462_2463_2464_2465_2466_2467_2468⟩,
  ⟨0x2870, 0x2469_246A_246B_246C_246D_246E_00BD_2153_2154_00BC_00BE_215B_215C_215D_215E_0000⟩,
  ⟨0x2920, 0x0000_00E6_0111_00F0_0127_0131_0133_0138_0140_0142_00F8_0153_00DF_00FE_0167_014B⟩,
  ⟨0x2930, 0x0149_3200_3201_3202_3203_3204_3205_3206_3207_3208_3209_320A_320B_320C_320D_320E⟩,
  ⟨0x2940, 0x320F_3210_3211_3212_3213_3214_3215_3216_3217_3218_3219_321A_321B_249C_249D_249E⟩,
  ⟨0x2950, 0x249F_24A0_24A1_24A2_24A3_24A4_24A5_24A6_24A7_24A8_24A9_24AA_24AB_24AC_24AD_24AE⟩,
  ⟨0x2960, 0x24AF_24B0_24B1_24B2_24B3_24B4_24B5_2474_2475_2476_2477_2478_2479_247A_247B_247C⟩,
  ⟨0x2970, 0x247D_247E_247F_2480_2481_2482_00B9_00B2_00B3_2074_207F_2081_2082_2083_2084_0000⟩,
  ⟨0x2A20, 0x0000_3041_3042_3043_3044_3045_3046_3047_3048_3049_304A_304B_304C_304D_304E_304F⟩,
  ⟨0x2A30, 0x3050_3051_3052_3053_3054_3055_3056_3057_3058_3059_305A_305B_305C_305D_305E_305F⟩,
  ⟨0x2A40, 0x3060_3061_3062_3063_3064_3065_3066_3067_3068_3069_306A_306B_306C_306D_306E_306F⟩,
  ⟨0x2A50, 0x3070_3071_3072_3073_3074_3075_3076_3077_3078_3079_307A_307B_307C_307D_307E_307F⟩,
  ⟨0x2A60, 0x3080_3081_3082_3083_3084_3085_3086_3087_3088_3089_308A_308B_308C_308D_308E_308F⟩,
  ⟨0x2A70, 0x3090_3091_3092_3093_0000_0000_0000_0000_0000_0000_0000_0000_0000_0000_0000_0000⟩,
  ⟨0x2B20, 0x0000_30A1_30A2_30A3_30A4_30A5_30A6_30A7_30A8_30A9_30AA_30AB_30AC_30AD_30AE_30AF⟩,
  ⟨0x2B30, 0x30B0_30B1_30B2_30B3_30B4_30B5_30B6_30B7_30B8_30B9_30BA_30BB_30BC_30BD_30BE_30BF⟩,
  ⟨0x2B40, 0x30C0_30C1_30C2_30C3_30C4_30C5_30C6_30C7_30C8_30C9_30CA_30CB_30CC_30CD_30CE_30CF⟩,
  ⟨0x2B50, 0x30D0_30D1_30D2_30D3_30D4_30D5_30D6_30D7_30D8_30D9_30DA_30DB_30DC_30DD_30DE_30DF⟩,
  ⟨0x2B60, 0x30E0_30E1_30E2_30E3_30E4_30E5_30E6_30E7_30E8_30E9_30EA_30EB_30EC_30ED_30EE_30EF⟩,
  ⟨0x2B70, 0x30F0_30F1_30F2_30F3_30F4_30F5_30F6_0000_0000_0000_0000_0000_0000_0000_0000_0000⟩,
  ⟨0x2C20, 0x0000_0410_0411_0412_0413_0414_0415_0401_0416_0417_0418_0419_041A_041B_041C_041D⟩,
  ⟨0x2C30, 0x041E_041F_0420_0421_0422_0423_0424_0425_0426_0427_0428_0429_042A_042B_042C_042D⟩,
  ⟨0x2C40, 0x042E_042F_0000_0000_0000_0000_0000_0000_0000_0000_0000_0000_0000_0000_0000_0000⟩,
  ⟨0x2C50, 0x0000_0430_0431_0432_0433_0434_0435_0451_0436_0437_0438_0439_043A_043B_043C_043D⟩,
  ⟨0x2C60, 0x043E_043F_0440_0441_0442_0443_0444_0445_0446_0447_0448_0449_044A_044B_044C_044D⟩,
  ⟨0x2C70, 0x044E_044F_0000_0000_0000_0000_0000_0000_0000_0000_0000_0000_0000_0000_0000_0000⟩,
  ⟨0x3020, 0x0000_AC00_AC01_AC04_AC07_AC08_AC09_AC0A_AC10_AC11_AC12_AC13_AC14_AC15_AC16_AC17⟩,
  ⟨0x3030, 0xAC19_AC1A_AC1B_AC1C_AC1D_AC20_AC24_AC2C_AC2D_AC2F_AC30_AC31_AC38_AC39_AC3C_AC40⟩,
  ⟨0x3040, 0xAC4B_AC4D_AC54_AC58_AC5C_AC70_AC71_AC74_AC77_AC78_AC7A_AC80_AC81_AC83_AC84_AC85⟩,
  ⟨0x3050, 0xAC86_AC89_AC8A_AC8B_AC8C_AC90_AC94_AC9C_AC9D_AC9F_ACA0_ACA1_ACA8_ACA9_ACAA_ACAC⟩,
  ⟨0x3060, 0xACAF_ACB0_ACB8_ACB9_ACBB_ACBC_ACBD_ACC1_ACC4_ACC8_ACCC_ACD5_ACD7_ACE0_ACE1_ACE4⟩,
  ⟨0x3070, 0xACE7_ACE8_ACEA_ACEC_ACEF_ACF0_ACF1_ACF3_ACF5_ACF6_ACFC_ACFD_AD00_AD04_AD06_0000⟩,
  ⟨0x3120, 0x0000_AD0C_AD0D_AD0F_AD11_AD18_AD1C_AD20_AD29_AD2C_AD2D_AD34_AD35_AD38_AD3C_AD44⟩,
  ⟨0x3130, 0xAD45_AD47_AD49_AD50_AD54_AD58_AD61_AD63_AD6C_AD6D_AD70_AD73_AD74_AD75_AD76_AD7B⟩,
  ⟨0x3140, 0xAD7C_AD7D_AD7F_AD81_AD82_AD88_AD89_AD8C_AD90_AD9C_AD9D_ADA4_ADB7_ADC0_ADC1_ADC4⟩,
  ⟨0x3150, 0xADC8_ADD0_ADD1_ADD3_ADDC_ADE0_ADE4_ADF8_ADF9_ADFC_ADFF_AE00_AE01_AE08_AE09_AE0B⟩,
  ⟨0x3160, 0xAE0D_AE14_AE30_AE31_AE34_AE37_AE38_AE3A_AE40_AE41_AE43_AE45_AE46_AE4A_AE4C_AE4D⟩,
  ⟨0x3170, 0xAE4E_AE50_AE54_AE56_AE5C_AE5D_AE5F_AE60_AE61_AE65_AE68_AE69_AE6C_AE70_AE78_0000⟩,
  ⟨0x3220, 0x0000_AE79_AE7B_AE7C_AE7D_AE84_AE85_AE8C_AEBC_AEBD_AEBE_AEC0_AEC4_AECC_AECD_AECF⟩,
  ⟨0x3230, 0xAED0_AED1_AED8_AED9_AEDC_AEE8_AEEB_AEED_AEF4_AEF8_AEFC_AF07_AF08_AF0D_AF10_AF2C⟩,
  ⟨0x3240, 0xAF2D_AF30_AF32_AF34_AF3C_AF3D_AF3F_AF41_AF42_AF43_AF48_AF49_AF50_AF5C_AF5D_AF64⟩,
  ⟨0x3250, 0xAF65_AF79_AF80_AF84_AF88_AF90_AF91_AF95_AF9C_AFB8_AFB9_AFBC_AFC0_AFC7_AFC8_AFC9⟩,
  ⟨0x3260, 0xAFCB_AFCD_AFCE_AFD4_AFDC_AFE8_AFE9_AFF0_AFF1_AFF4_AFF8_B000_B001_B004_B00C_B010⟩,
  ⟨0x3270, 0xB014_B01C_B01D_B028_B044_B045_B048_B04A_B04C_B04E_B053_B054_B055_B057_B059_0000⟩,
  ⟨0x3320, 0x0000_B05D_B07C_B07D_B080_B084_B08C_B08D_B08F_B091_B098_B099_B09A_B09C_B09F_B0A0⟩,
  ⟨0x3330, 0xB0A1_B0A2_B0A8_B0A9_B0AB_B0AC_B0AD_B0AE_B0AF_B0B1_B0B3_B0B4_B0B5_B0B8_B0BC_B0C4⟩,
  ⟨0x3340, 0xB0C5_B0C7_B0C8_B0C9_B0D0_B0D1_B0D4_B0D8_B0E0_B0E5_B108_B109_B10B_B10C_B110_B112⟩,
  ⟨0x3350, 0xB113_B118_B119_B11B_B11C_B11D_B123_B124_B125_B128_B12C_B134_B135_B137_B138_B139⟩,
  ⟨0x3360, 0xB140_B141_B144_B148_B150_B151_B154_B155_B158_B15C_B160_B178_B179_B17C_B180_B182⟩,
  ⟨0x3370, 0xB188_B189_B18B_B18D_B192_B193_B194_B198_B19C_B1A8_B1CC_B1D0_B1D4_B1DC_B1DD_0000⟩,
  ⟨0x3420, 0x0000_B1DF_B1E8_B1E9_B1EC_B1F0_B1F9_B1FB_B1FD_B204_B205_B208_B20B_B20C_B214_B215⟩,
  ⟨0x3430, 0xB217_B219_B220_B234_B23C_B258_B25C_B260_B268_B269_B274_B275_B27C_B284_B285_B289⟩,
  ⟨0x3440, 0xB290_B291_B294_B298_B299_B29A_B2A0_B2A1_B2A3_B2A5_B2A6_B2AA_B2AC_B2B0_B2B4_B2C8⟩,
  ⟨0x3450, 0xB2C9_B2CC_B2D0_B2D2_B2D8_B2D9_B2DB_B2DD_B2E2_B2E4_B2E5_B2E6_B2E8_B2EB_B2EC_B2ED⟩,
  ⟨0x3460, 0xB2EE_B2EF_B2F3_B2F4_B2F5_B2F7_B2F8_B2F9_B2FA_B2FB_B2FF_B300_B301_B304_B308_B310⟩,
  ⟨0x3470, 0xB311_B313_B314_B315_B31C_B354_B355_B356_B358_B35B_B35C_B35E_B35F_B364_B365_0000⟩,
  ⟨0x3520, 0x0000_B367_B369_B36B_B36E_B370_B371_B374_B378_B380_B381_B383_B384_B385_B38C_B390⟩,
  ⟨0x3530, 0xB394_B3A0_B3A1_B3A8_B3AC_B3C4_B3C5_B3C8_B3CB_B3CC_B3CE_B3D0_B3D4_B3D5_B3D7_B3D9⟩,
  ⟨0x3540, 0xB3DB_B3DD_B3E0_B3E4_B3E8_B3FC_B410_B418_B41C_B420_B428_B429_B42B_B434_B450_B451⟩,
  ⟨0x3550, 0xB454_B458_B460_B461_B463_B465_B46C_B480_B488_B49D_B4A4_B4A8_B4AC_B4B5_B4B7_B4B9⟩,
  ⟨0x3560, 0xB4C0_B4C4_B4C8_B4D0_B4D5_B4DC_B4DD_B4E0_B4E3_B4E4_B4E6_B4EC_B4ED_B4EF_B4F1_B4F8⟩,
  ⟨0x3570, 0xB514_B515_B518_B51B_B51C_B524_B525_B527_B528_B529_B52A_B530_B531_B534_B538_0000⟩,
  ⟨0x3620, 0x0000_B540_B541_B543_B544_B545_B54B_B54C_B54D_B550_B554_B55C_B55D_B55F_B560_B561⟩,
  ⟨0x3630, 0xB5A0_B5A1_B5A4_B5A8_B5AA_B5AB_B5B0_B5B1_B5B3_B5B4_B5B5_B5BB_B5BC_B5BD_B5C0_B5C4⟩,
  ⟨0x3640, 0xB5CC_B5CD_B5CF_B5D0_B5D1_B5D8_B5EC_B610_B611_B614_B618_B625_B62C_B634_B648_B664⟩,
  ⟨0x3650, 0xB668_B69C_B69D_B6A0_B6A4_B6AB_B6AC_B6B1_B6D4_B6F0_B6F4_B6F8_B700_B701_B705_B728⟩,
  ⟨0x3660, 0xB729_B72C_B72F_B730_B738_B739_B73B_B744_B748_B74C_B754_B755_B760_B764_B768_B770⟩,
  ⟨0x3670, 0xB771_B773_B775_B77C_B77D_B780_B784_B78C_B78D_B78F_B790_B791_B792_B796_B797_0000⟩,
  ⟨0x3720, 0x0000_B798_B799_B79C_B7A0_B7A8_B7A9_B7AB_B7AC_B7AD_B7B4_B7B5_B7B8_B7C7_B7C9_B7EC⟩,
  ⟨0x3730, 0xB7ED_B7F0_B7F4_B7FC_B7FD_B7FF_B800_B801_B807_B808_B809_B80C_B810_B818_B819_B81B⟩,
  ⟨0x3740, 0xB81D_B824_B825_B828_B82C_B834_B835_B837_B838_B839_B840_B844_B851_B853_B85C_B85D⟩,
  ⟨0x3750, 0xB860_B864_B86C_B86D_B86F_B871_B878_B87C_B88D_B8A8_B8B0_B8B4_B8B8_B8C0_B8C1_B8C3⟩,
  ⟨0x3760, 0xB8C5_B8CC_B8D0_B8D4_B8DD_B8DF_B8E1_B8E8_B8E9_B8EC_B8F0_B8F8_B8F9_B8FB_B8FD_B904⟩,
  ⟨0x3770, 0xB918_B920_B93C_B93D_B940_B944_B94C_B94F_B951_B958_B959_B95C_B960_B968_B969_0000⟩,
  ⟨0x3820, 0x0000_B96B_B96D_B974_B975_B978_B97C_B984_B985_B987_B989_B98A_B98D_B98E_B9AC_B9AD⟩,
  ⟨0x3830, 0xB9B0_B9B4_B9BC_B9BD_B9BF_B9C1_B9C8_B9C9_B9CC_B9CE_B9CF_B9D0_B9D1_B9D2_B9D8_B9D9⟩,
  ⟨0x3840, 0xB9DB_B9DD_B9DE_B9E1_B9E3_B9E4_B9E5_B9E8_B9EC_B9F4_B9F5_B9F7_B9F8_B9F9_B9FA_BA00⟩,
  ⟨0x3850, 0xBA01_BA08_BA15_BA38_BA39_BA3C_BA40_BA42_BA48_BA49_BA4B_BA4D_BA4E_BA53_BA54_BA55⟩,
  ⟨0x3860, 0xBA58_BA5C_BA64_BA65_BA67_BA68_BA69_BA70_BA71_BA74_BA78_BA83_BA84_BA85_BA87_BA8C⟩,
  ⟨0x3870, 0xBAA8_BAA9_BAAB_BAAC_BAB0_BAB2_BAB8_BAB9_BABB_BABD_BAC4_BAC8_BAD8_BAD9_BAFC_0000⟩,
  ⟨0x3920, 0x0000_BB00_BB04_BB0D_BB0F_BB11_BB18_BB1C_BB20_BB29_BB2B_BB34_BB35_BB36_BB38_BB3B⟩,
  ⟨0x3930, 0xBB3C_BB3D_BB3E_BB44_BB45_BB47_BB49_BB4D_BB4F_BB50_BB54_BB58_BB61_BB63_BB6C_BB88⟩,
  ⟨0x3940, 0xBB8C_BB90_BBA4_BBA8_BBAC_BBB4_BBB7_BBC0_BBC4_BBC8_BBD0_BBD3_BBF8_BBF9_BBFC_BBFF⟩,
  ⟨0x3950, 0xBC00_BC02_BC08_BC09_BC0B_BC0C_BC0D_BC0F_BC11_BC14_BC15_BC16_BC17_BC18_BC1B_BC1C⟩,
  ⟨0x3960, 0xBC1D_BC1E_BC1F_BC24_BC25_BC27_BC29_BC2D_BC30_BC31_BC34_BC38_BC40_BC41_BC43_BC44⟩,
  ⟨0x3970, 0xBC45_BC49_BC4C_BC4D_BC50_BC5D_BC84_BC85_BC88_BC8B_BC8C_BC8E_BC94_BC95_BC97_0000⟩,
  ⟨0x3A20, 0x0000_BC99_BC9A_BCA0_BCA1_BCA4_BCA7_BCA8_BCB0_BCB1_BCB3_BCB4_BCB5_BCBC_BCBD_BCC0⟩,
  ⟨0x3A30, 0xBCC4_BCCD_BCCF_BCD0_BCD1_BCD5_BCD8_BCDC_BCF4_BCF5_BCF6_BCF8_BCFC_BD04_BD05_BD07⟩,
  ⟨0x3A40, 0xBD09_BD10_BD14_BD24_BD2C_BD40_BD48_BD49_BD4C_BD50_BD58_BD59_BD64_BD68_BD80_BD81⟩,
  ⟨0x3A50, 0xBD84_BD87_BD88_BD89_BD8A_BD90_BD91_BD93_BD95_BD99_BD9A_BD9C_BDA4_BDB0_BDB8_BDD4⟩,
  ⟨0x3A60, 0xBDD5_BDD8_BDDC_BDE9_BDF0_BDF4_BDF8_BE00_BE03_BE05_BE0C_BE0D_BE10_BE14_BE1C_BE1D⟩,
  ⟨0x3A70, 0xBE1F_BE44_BE45_BE48_BE4C_BE4E_BE54_BE55_BE57_BE59_BE5A_BE5B_BE60_BE61_BE64_0000⟩,
  ⟨0x3B20, 0x0000_BE68_BE6A_BE70_BE71_BE73_BE74_BE75_BE7B_BE7C_BE7D_BE80_BE84_BE8C_BE8D_BE8F⟩,
  ⟨0x3B30, 0xBE90_BE91_BE98_BE99_BEA8_BED0_BED1_BED4_BED7_BED8_BEE0_BEE3_BEE4_BEE5_BEEC_BF01⟩,
  ⟨0x3B40, 0xBF08_BF09_BF18_BF19_BF1B_BF1C_BF1D_BF40_BF41_BF44_BF48_BF50_BF51_BF55_BF94_BFB0⟩,
  ⟨0x3B50, 0xBFC5_BFCC_BFCD_BFD0_BFD4_BFDC_BFDF_BFE1_C03C_C051_C058_C05C_C060_C068_C069_C090⟩,
  ⟨0x3B60, 0xC091_C094_C098_C0A0_C0A1_C0A3_C0A5_C0AC_C0AD_C0AF_C0B0_C0B3_C0B4_C0B5_C0B6_C0BC⟩,
  ⟨0x3B70, 0xC0BD_C0BF_C0C0_C0C1_C0C5_C0C8_C0C9_C0CC_C0D0_C0D8_C0D9_C0DB_C0DC_C0DD_C0E4_0000⟩,
  ⟨0x3C20, 0x0000_C0E5_C0E8_C0EC_C0F4_C0F5_C0F7_C0F9_C100_C104_C108_C110_C115_C11C_C11D_C11E⟩,
  ⟨0x3C30, 0xC11F_C120_C123_C124_C126_C127_C12C_C12D_C12F_C130_C131_C136_C138_C139_C13C_C140⟩,
  ⟨0x3C40, 0xC148_C149_C14B_C14C_C14D_C154_C155_C158_C15C_C164_C165_C167_C168_C169_C170_C174⟩,
  ⟨0x3C50, 0xC178_C185_C18C_C18D_C18E_C190_C194_C196_C19C_C19D_C19F_C1A1_C1A5_C1A8_C1A9_C1AC⟩,
  ⟨0x3C60, 0xC1B0_C1BD_C1C4_C1C8_C1CC_C1D4_C1D7_C1D8_C1E0_C1E4_C1E8_C1F0_C1F1_C1F3_C1FC_C1FD⟩,
  ⟨0x3C70, 0xC200_C204_C20C_C20D_C20F_C211_C218_C219_C21C_C21F_C220_C228_C229_C22B_C22D_0000⟩,
  ⟨0x3D20, 0x0000_C22F_C231_C232_C234_C248_C250_C251_C254_C258_C260_C265_C26C_C26D_C270_C274⟩,
  ⟨0x3D30, 0xC27C_C27D_C27F_C281_C288_C289_C290_C298_C29B_C29D_C2A4_C2A5_C2A8_C2AC_C2AD_C2B4⟩,
  ⟨0x3D40, 0xC2B5_C2B7_C2B9_C2DC_C2DD_C2E0_C2E3_C2E4_C2EB_C2EC_C2ED_C2EF_C2F1_C2F6_C2F8_C2F9⟩,
  ⟨0x3D50, 0xC2FB_C2FC_C300_C308_C309_C30C_C30D_C313_C314_C315_C318_C31C_C324_C325_C328_C329⟩,
  ⟨0x3D60, 0xC345_C368_C369_C36C_C370_C372_C378_C379_C37C_C37D_C384_C388_C38C_C3C0_C3D8_C3D9⟩,
  ⟨0x3D70, 0xC3DC_C3DF_C3E0_C3E2_C3E8_C3E9_C3ED_C3F4_C3F5_C3F8_C408_C410_C424_C42C_C430_0000⟩,
  ⟨0x3E20, 0x0000_C434_C43C_C43D_C448_C464_C465_C468_C46C_C474_C475_C479_C480_C494_C49C_C4B8⟩,
  ⟨0x3E30, 0xC4BC_C4E9_C4F0_C4F1_C4F4_C4F8_C4FA_C4FF_C500_C501_C50C_C510_C514_C51C_C528_C529⟩,
  ⟨0x3E40, 0xC52C_C530_C538_C539_C53B_C53D_C544_C545_C548_C549_C54A_C54C_C54D_C54E_C553_C554⟩,
  ⟨0x3E50, 0xC555_C557_C558_C559_C55D_C55E_C560_C561_C564_C568_C570_C571_C573_C574_C575_C57C⟩,
  ⟨0x3E60, 0xC57D_C580_C584_C587_C58C_C58D_C58F_C591_C595_C597_C598_C59C_C5A0_C5A9_C5B4_C5B5⟩,
  ⟨0x3E70, 0xC5B8_C5B9_C5BB_C5BC_C5BD_C5BE_C5C4_C5C5_C5C6_C5C7_C5C8_C5C9_C5CA_C5CC_C5CE_0000⟩,
  ⟨0x3F20, 0x0000_C5D0_C5D1_C5D4_C5D8_C5E0_C5E1_C5E3_C5E5_C5EC_C5ED_C5EE_C5F0_C5F4_C5F6_C5F7⟩,
  ⟨0x3F30, 0xC5FC_C5FD_C5FE_C5FF_C600_C601_C605_C606_C607_C608_C60C_C610_C618_C619_C61B_C61C⟩,
  ⟨0x3F40, 0xC624_C625_C628_C62C_C62D_C62E_C630_C633_C634_C635_C637_C639_C63B_C640_C641_C644⟩,
  ⟨0x3F50, 0xC648_C650_C651_C653_C654_C655_C65C_C65D_C660_C66C_C66F_C671_C678_C679_C67C_C680⟩,
  ⟨0x3F60, 0xC688_C689_C68B_C68D_C694_C695_C698_C69C_C6A4_C6A5_C6A7_C6A9_C6B0_C6B1_C6B4_C6B8⟩,
  ⟨0x3F70, 0xC6B9_C6BA_C6C0_C6C1_C6C3_C6C5_C6CC_C6CD_C6D0_C6D4_C6DC_C6DD_C6E0_C6E1_C6E8_0000⟩,
  ⟨0x4020, 0x0000_C6E9_C6EC_C6F0_C6F8_C6F9_C6FD_C704_C705_C708_C70C_C714_C715_C717_C719_C720⟩,
  ⟨0x4030, 0xC721_C724_C728_C730_C731_C733_C735_C737_C73C_C73D_C740_C744_C74A_C74C_C74D_C74F⟩,
  ⟨0x4040, 0xC751_C752_C753_C754_C755_C756_C757_C758_C75C_C760_C768_C76B_C774_C775_C778_C77C⟩,
  ⟨0x4050, 0xC77D_C77E_C783_C784_C785_C787_C788_C789_C78A_C78E_C790_C791_C794_C796_C797_C798⟩,
  ⟨0x4060, 0xC79A_C7A0_C7A1_C7A3_C7A4_C7A5_C7A6_C7AC_C7AD_C7B0_C7B4_C7BC_C7BD_C7BF_C7C0_C7C1⟩,
  ⟨0x4070, 0xC7C8_C7C9_C7CC_C7CE_C7D0_C7D8_C7DD_C7E4_C7E8_C7EC_C800_C801_C804_C808_C80A_0000⟩,
  ⟨0x4120, 0x0000_C810_C811_C813_C815_C816_C81C_C81D_C820_C824_C82C_C82D_C82F_C831_C838_C83C⟩,
  ⟨0x4130, 0xC840_C848_C849_C84C_C84D_C854_C870_C871_C874_C878_C87A_C880_C881_C883_C885_C886⟩,
  ⟨0x4140, 0xC887_C88B_C88C_C88D_C894_C89D_C89F_C8A1_C8A8_C8BC_C8BD_C8C4_C8C8_C8CC_C8D4_C8D5⟩,
  ⟨0x4150, 0xC8D7_C8D9_C8E0_C8E1_C8E4_C8F5_C8FC_C8FD_C900_C904_C905_C906_C90C_C90D_C90F_C911⟩,
  ⟨0x4160, 0xC918_C92C_C934_C950_C951_C954_C958_C960_C961_C963_C96C_C970_C974_C97C_C988_C989⟩,
  ⟨0x4170, 0xC98C_C990_C998_C999_C99B_C99D_C9C0_C9C1_C9C4_C9C7_C9C8_C9CA_C9D0_C9D1_C9D3_0000⟩,
  ⟨0x4220, 0x0000_C9D5_C9D6_C9D9_C9DA_C9DC_C9DD_C9E0_C9E2_C9E4_C9E7_C9EC_C9ED_C9EF_C9F0_C9F1⟩,
  ⟨0x4230, 0xC9F8_C9F9_C9FC_CA00_CA08_CA09_CA0B_CA0C_CA0D_CA14_CA18_CA29_CA4C_CA4D_CA50_CA54⟩,
  ⟨0x4240, 0xCA5C_CA5D_CA5F_CA60_CA61_CA68_CA7D_CA84_CA98_CABC_CABD_CAC0_CAC4_CACC_CACD_CACF⟩,
  ⟨0x4250, 0xCAD1_CAD3_CAD8_CAD9_CAE0_CAEC_CAF4_CB08_CB10_CB14_CB18_CB20_CB21_CB41_CB48_CB49⟩,
  ⟨0x4260, 0xCB4C_CB50_CB58_CB59_CB5D_CB64_CB78_CB79_CB9C_CBB8_CBD4_CBE4_CBE7_CBE9_CC0C_CC0D⟩,
  ⟨0x4270, 0xCC10_CC14_CC1C_CC1D_CC21_CC22_CC27_CC28_CC29_CC2C_CC2E_CC30_CC38_CC39_CC3B_0000⟩,
  ⟨0x4320, 0x0000_CC3C_CC3D_CC3E_CC44_CC45_CC48_CC4C_CC54_CC55_CC57_CC58_CC59_CC60_CC64_CC66⟩,
  ⟨0x4330, 0xCC68_CC70_CC75_CC98_CC99_CC9C_CCA0_CCA8_CCA9_CCAB_CCAC_CCAD_CCB4_CCB5_CCB8_CCBC⟩,
  ⟨0x4340, 0xCCC4_CCC5_CCC7_CCC9_CCD0_CCD4_CCE4_CCEC_CCF0_CD01_CD08_CD09_CD0C_CD10_CD18_CD19⟩,
  ⟨0x4350, 0xCD1B_CD1D_CD24_CD28_CD2C_CD39_CD5C_CD60_CD64_CD6C_CD6D_CD6F_CD71_CD78_CD88_CD94⟩,
  ⟨0x4360, 0xCD95_CD98_CD9C_CDA4_CDA5_CDA7_CDA9_CDB0_CDC4_CDCC_CDD0_CDE8_CDEC_CDF0_CDF8_CDF9⟩,
  ⟨0x4370, 0xCDFB_CDFD_CE04_CE08_CE0C_CE14_CE19_CE20_CE21_CE24_CE28_CE30_CE31_CE33_CE35_0000⟩,
  ⟨0x4420, 0x0000_CE58_CE59_CE5C_CE5F_CE60_CE61_CE68_CE69_CE6B_CE6D_CE74_CE75_CE78_CE7C_CE84⟩,
  ⟨0x4430, 0xCE85_CE87_CE89_CE90_CE91_CE94_CE98_CEA0_CEA1_CEA3_CEA4_CEA5_CEAC_CEAD_CEC1_CEE4⟩,
  ⟨0x4440, 0xCEE5_CEE8_CEEB_CEEC_CEF4_CEF5_CEF7_CEF8_CEF9_CF00_CF01_CF04_CF08_CF10_CF11_CF13⟩,
  ⟨0x4450, 0xCF15_CF1C_CF20_CF24_CF2C_CF2D_CF2F_CF30_CF31_CF38_CF54_CF55_CF58_CF5C_CF64_CF65⟩,
  ⟨0x4460, 0xCF67_CF69_CF70_CF71_CF74_CF78_CF80_CF85_CF8C_CFA1_CFA8_CFB0_CFC4_CFE0_CFE1_CFE4⟩,
  ⟨0x4470, 0xCFE8_CFF0_CFF1_CFF3_CFF5_CFFC_D000_D004_D011_D018_D02D_D034_D035_D038_D03C_0000⟩,
  ⟨0x4520, 0x0000_D044_D045_D047_D049_D050_D054_D058_D060_D06C_D06D_D070_D074_D07C_D07D_D081⟩,
  ⟨0x4530, 0xD0A4_D0A5_D0A8_D0AC_D0B4_D0B5_D0B7_D0B9_D0C0_D0C1_D0C4_D0C8_D0C9_D0D0_D0D1_D0D3⟩,
  ⟨0x4540, 0xD0D4_D0D5_D0DC_D0DD_D0E0_D0E4_D0EC_D0ED_D0EF_D0F0_D0F1_D0F8_D10D_D130_D131_D134⟩,
  ⟨0x4550, 0xD138_D13A_D140_D141_D143_D144_D145_D14C_D14D_D150_D154_D15C_D15D_D15F_D161_D168⟩,
  ⟨0x4560, 0xD16C_D17C_D184_D188_D1A0_D1A1_D1A4_D1A8_D1B0_D1B1_D1B3_D1B5_D1BA_D1BC_D1C0_D1D8⟩,
  ⟨0x4570, 0xD1F4_D1F8_D207_D209_D210_D22C_D22D_D230_D234_D23C_D23D_D23F_D241_D248_D25C_0000⟩,
  ⟨0x4620, 0x0000_D264_D280_D281_D284_D288_D290_D291_D295_D29C_D2A0_D2A4_D2AC_D2B1_D2B8_D2B9⟩,
  ⟨0x4630, 0xD2BC_D2BF_D2C0_D2C2_D2C8_D2C9_D2CB_D2D4_D2D8_D2DC_D2E4_D2E5_D2F0_D2F1_D2F4_D2F8⟩,
  ⟨0x4640, 0xD300_D301_D303_D305_D30C_D30D_D30E_D310_D314_D316_D31C_D31D_D31F_D320_D321_D325⟩,
  ⟨0x4650, 0xD328_D329_D32C_D330_D338_D339_D33B_D33C_D33D_D344_D345_D37C_D37D_D380_D384_D38C⟩,
  ⟨0x4660, 0xD38D_D38F_D390_D391_D398_D399_D39C_D3A0_D3A8_D3A9_D3AB_D3AD_D3B4_D3B8_D3BC_D3C4⟩,
  ⟨0x4670, 0xD3C5_D3C8_D3C9_D3D0_D3D8_D3E1_D3E3_D3EC_D3ED_D3F0_D3F4_D3FC_D3FD_D3FF_D401_0000⟩,
  ⟨0x4720, 0x0000_D408_D41D_D440_D444_D45C_D460_D464_D46D_D46F_D478_D479_D47C_D47F_D480_D482⟩,
  ⟨0x4730, 0xD488_D489_D48B_D48D_D494_D4A9_D4CC_D4D0_D4D4_D4DC_D4DF_D4E8_D4EC_D4F0_D4F8_D4FB⟩,
  ⟨0x4740, 0xD4FD_D504_D508_D50C_D514_D515_D517_D53C_D53D_D540_D544_D54C_D54D_D54F_D551_D558⟩,
  ⟨0x4750, 0xD559_D55C_D560_D565_D568_D569_D56B_D56D_D574_D575_D578_D57C_D584_D585_D587_D588⟩,
  ⟨0x4760, 0xD589_D590_D5A5_D5C8_D5C9_D5CC_D5D0_D5D2_D5D8_D5D9_D5DB_D5DD_D5E4_D5E5_D5E8_D5EC⟩,
  ⟨0x4770, 0xD5F4_D5F5_D5F7_D5F9_D600_D601_D604_D608_D610_D611_D613_D614_D615_D61C_D620_0000⟩,
  ⟨0x4820, 0x0000_D624_D62D_D638_D639_D63C_D640_D645_D648_D649_D64B_D64D_D651_D654_D655_D658⟩,
  ⟨0x4830, 0xD65C_D667_D669_D670_D671_D674_D683_D685_D68C_D68D_D690_D694_D69D_D69F_D6A1_D6A8⟩,
  ⟨0x4840, 0xD6AC_D6B0_D6B9_D6BB_D6C4_D6C5_D6C8_D6CC_D6D1_D6D4_D6D7_D6D9_D6E0_D6E4_D6E8_D6F0⟩,
  ⟨0x4850, 0xD6F5_D6FC_D6FD_D700_D704_D711_D718_D719_D71C_D720_D728_D729_D72B_D72D_D734_D735⟩,
  ⟨0x4860, 0xD738_D73C_D744_D747_D749_D750_D751_D754_D756_D757_D758_D759_D760_D761_D763_D765⟩,
  ⟨0x4870, 0xD769_D76C_D770_D774_D77C_D77D_D781_D788_D789_D78C_D790_D798_D799_D79B_D79D_0000⟩,
  ⟨0x4A20, 0x0000_4F3D_4F73_5047_50F9_52A0_53EF_5475_54E5_5609_5AC1_5BB6_6687_67B6_67B7_67EF⟩,
  ⟨0x4A30, 0x6B4C_73C2_75C2_7A3C_82DB_8304_8857_8888_8A36_8CC8_8DCF_8EFB_8FE6_99D5_523B_5374⟩,
  ⟨0x4A40, 0x5404_606A_6164_6BBC_73CF_811A_89BA_89D2_95A3_4F83_520A_58BE_5978_59E6_5E72_5E79⟩,
  ⟨0x4A50, 0x61C7_63C0_6746_67EC_687F_6F97_764E_770B_78F5_7A08_7AFF_7C21_809D_826E_8271_8AEB⟩,
  ⟨0x4A60, 0x9593_4E6B_559D_66F7_6E34_78A3_7AED_845B_8910_874E_97A8_52D8_574E_582A_5D4C_611F⟩,
  ⟨0x4A70, 0x61BE_6221_6562_67D1_6A44_6E1B_7518_75B3_76E3_77B0_7D3A_90AF_9451_9452_9F95_0000⟩,
  ⟨0x4B20, 0x0000_5323_5CAC_7532_80DB_9240_9598_525B_5808_59DC_5CA1_5D17_5EB7_5F3A_5F4A_6177⟩,
  ⟨0x4B30, 0x6C5F_757A_7586_7CE0_7D73_7DB1_7F8C_8154_8221_8591_8941_8B1B_92FC_964D_9C47_4ECB⟩,
  ⟨0x4B40, 0x4EF7_500B_51F1_584F_6137_613E_6168_6539_69EA_6F11_75A5_7686_76D6_7B87_82A5_84CB⟩,
  ⟨0x4B50, 0xF900_93A7_958B_5580_5BA2_5751_F901_7CB3_7FB9_91B5_5028_53BB_5C45_5DE8_62D2_636E⟩,
  ⟨0x4B60, 0x64DA_64E7_6E20_70AC_795B_8DDD_8E1E_F902_907D_9245_92F8_4E7E_4EF6_5065_5DFE_5EFA⟩,
  ⟨0x4B70, 0x6106_6957_8171_8654_8E47_9375_9A2B_4E5E_5091_6770_6840_5109_528D_5292_6AA2_0000⟩,
  ⟨0x4C20, 0x0000_77BC_9210_9ED4_52AB_602F_8FF2_5048_61A9_63ED_64CA_683C_6A84_6FC0_8188_89A1⟩,
  ⟨0x4C30, 0x9694_5805_727D_72AC_7504_7D79_7E6D_80A9_898B_8B74_9063_9D51_6289_6C7A_6F54_7D50⟩,
  ⟨0x4C40, 0x7F3A_8A23_517C_614A_7B9D_8B19_9257_938C_4EAC_4FD3_501E_50BE_5106_52C1_52CD_537F⟩,
  ⟨0x4C50, 0x5770_5883_5E9A_5F91_6176_61AC_64CE_656C_666F_66BB_66F4_6897_6D87_7085_70F1_749F⟩,
  ⟨0x4C60, 0x74A5_74CA_75D9_786C_78EC_7ADF_7AF6_7D45_7D93_8015_803F_811B_8396_8B66_8F15_9015⟩,
  ⟨0x4C70, 0x93E1_9803_9838_9A5A_9BE8_4FC2_5553_583A_5951_5B63_5C46_60B8_6212_6842_68B0_0000⟩,
  ⟨0x4D20, 0x0000_68E8_6EAA_754C_7678_78CE_7A3D_7CFB_7E6B_7E7C_8A08_8AA1_8C3F_968E_9DC4_53E4⟩,
  ⟨0x4D30, 0x53E9_544A_5471_56FA_59D1_5B64_5C3B_5EAB_62F7_6537_6545_6572_66A0_67AF_69C1_6CBD⟩,
  ⟨0x4D40, 0x75FC_7690_777E_7A3F_7F94_8003_80A1_818F_82E6_82FD_83F0_85C1_8831_88B4_8AA5_F903⟩,
  ⟨0x4D50, 0x8F9C_932E_96C7_9867_9AD8_9F13_54ED_659B_66F2_688F_7A40_8C37_9D60_56F0_5764_5D11⟩,
  ⟨0x4D60, 0x6606_68B1_68CD_6EFE_7428_889E_9BE4_6C68_F904_9AA8_4F9B_516C_5171_529F_5B54_5DE5⟩,
  ⟨0x4D70, 0x6050_606D_62F1_63A7_653B_73D9_7A7A_86A3_8CA2_978F_4E32_5BE1_6208_679C_74DC_0000⟩,
  ⟨0x4E20, 0x0000_79D1_83D3_8A87_8AB2_8DE8_904E_934B_9846_5ED3_69E8_85FF_90ED_F905_51A0_5B98⟩,
  ⟨0x4E30, 0x5BEC_6163_68FA_6B3E_704C_742F_74D8_7BA1_7F50_83C5_89C0_8CAB_95DC_9928_522E_605D⟩,
  ⟨0x4E40, 0x62EC_9002_4F8A_5149_5321_58D9_5EE3_66E0_6D38_709A_72C2_73D6_7B50_80F1_945B_5366⟩,
  ⟨0x4E50, 0x639B_7F6B_4E56_5080_584A_58DE_602A_6127_62D0_69D0_9B41_5B8F_7D18_80B1_8F5F_4EA4⟩,
  ⟨0x4E60, 0x50D1_54AC_55AC_5B0C_5DA0_5DE7_652A_654E_6821_6A4B_72E1_768E_77EF_7D5E_7FF9_81A0⟩,
  ⟨0x4E70, 0x854E_86DF_8F03_8F4E_90CA_9903_9A55_9BAB_4E18_4E45_4E5D_4EC7_4FF1_5177_52FE_0000⟩,
  ⟨0x4F20, 0x0000_5340_53E3_53E5_548E_5614_5775_57A2_5BC7_5D87_5ED0_61FC_62D8_6551_67B8_67E9⟩,
  ⟨0x4F30, 0x69CB_6B50_6BC6_6BEC_6C42_6E9D_7078_72D7_7396_7403_77BF_77E9_7A76_7D7F_8009_81FC⟩,
  ⟨0x4F40, 0x8205_820A_82DF_8862_8B33_8CFC_8EC0_9011_90B1_9264_92B6_99D2_9A45_9CE9_9DD7_9F9C⟩,
  ⟨0x4F50, 0x570B_5C40_83CA_97A0_97AB_9EB4_541B_7A98_7FA4_88D9_8ECD_90E1_5800_5C48_6398_7A9F⟩,
  ⟨0x4F60, 0x5BAE_5F13_7A79_7AAE_828E_8EAC_5026_5238_52F8_5377_5708_62F3_6372_6B0A_6DC3_7737⟩,
  ⟨0x4F70, 0x53A5_7357_8568_8E76_95D5_673A_6AC3_6F70_8A6D_8ECC_994B_F906_6677_6B78_8CB4_0000⟩,
  ⟨0x5020, 0x0000_9B3C_F907_53EB_572D_594E_63C6_69FB_73EA_7845_7ABA_7AC5_7CFE_8475_898F_8D73⟩,
  ⟨0x5030, 0x9035_95A8_52FB_5747_7547_7B60_83CC_921E_F908_6A58_514B_524B_5287_621F_68D8_6975⟩,
  ⟨0x5040, 0x9699_50C5_52A4_52E4_61C3_65A4_6839_69FF_747E_7B4B_82B9_83EB_89B2_8B39_8FD1_9949⟩,
  ⟨0x5050, 0xF909_4ECA_5997_64D2_6611_6A8E_7434_7981_79BD_82A9_887E_887F_895F_F90A_9326_4F0B⟩,
  ⟨0x5060, 0x53CA_6025_6271_6C72_7D1A_7D66_4E98_5162_77DC_80AF_4F01_4F0E_5176_5180_55DC_5668⟩,
  ⟨0x5070, 0x573B_57FA_57FC_5914_5947_5993_5BC4_5C90_5D0E_5DF1_5E7E_5FCC_6280_65D7_65E3_0000⟩,
  ⟨0x5120, 0x0000_671E_671F_675E_68CB_68C4_6A5F_6B3A_6C23_6C7D_6C82_6DC7_7398_7426_742A_7482⟩,
  ⟨0x5130, 0x74A3_7578_757F_7881_78EF_7941_7947_7948_797A_7B95_7D00_7DBA_7F88_8006_802D_808C⟩,
  ⟨0x5140, 0x8A18_8B4F_8C48_8D77_9321_9324_98E2_9951_9A0E_9A0F_9A65_9E92_7DCA_4F76_5409_62EE⟩,
  ⟨0x5150, 0x6854_91D1_55AB_513A_F90B_F90C_5A1C_61E6_F90D_62CF_62FF_F90E_F90F_F910_F911_F912⟩,
  ⟨0x5160, 0xF913_90A3_F914_F915_F916_F917_F918_8AFE_F919_F91A_F91B_F91C_6696_F91D_7156_F91E⟩,
  ⟨0x5170, 0xF91F_96E3_F920_634F_637A_5357_F921_678F_6960_6E73_F922_7537_F923_F924_F925_0000⟩,
  ⟨0x5220, 0x0000_7D0D_F926_F927_8872_56CA_5A18_F928_F929_F92A_F92B_F92C_4E43_F92D_5167_5948⟩,
  ⟨0x5230, 0x67F0_8010_F92E_5973_5E74_649A_79CA_5FF5_606C_62C8_637B_5BE7_5BD7_52AA_F92F_5974⟩,
  ⟨0x5240, 0x5F29_6012_F930_F931_F932_7459_F933_F934_F935_F936_F937_F938_99D1_F939_F93A_F93B⟩,
  ⟨0x5250, 0xF93C_F93D_F93E_F93F_F940_F941_F942_F943_6FC3_F944_F945_81BF_8FB2_60F1_F946_F947⟩,
  ⟨0x5260, 0x8166_F948_F949_5C3F_F94A_F94B_F94C_F94D_F94E_F94F_F950_F951_5AE9_8A25_677B_7D10⟩,
  ⟨0x5270, 0xF952_F953_F954_F955_F956_F957_80FD_F958_F959_5C3C_6CE5_533F_6EBA_591A_8336_0000⟩,
  ⟨0x5320, 0x0000_4E39_4EB6_4F46_55AE_5718_58C7_5F56_65B7_65E6_6A80_6BB5_6E4D_77ED_7AEF_7C1E⟩,
  ⟨0x5330, 0x7DDE_86CB_8892_9132_935B_64BB_6FBE_737A_75B8_9054_5556_574D_61BA_64D4_66C7_6DE1⟩,
  ⟨0x5340, 0x6E5B_6F6D_6FB9_75F0_8043_81BD_8541_8983_8AC7_8B5A_931F_6C93_7553_7B54_8E0F_905D⟩,
  ⟨0x5350, 0x5510_5802_5858_5E62_6207_649E_68E0_7576_7CD6_87B3_9EE8_4EE3_5788_576E_5927_5C0D⟩,
  ⟨0x5360, 0x5CB1_5E36_5F85_6234_64E1_73B3_81FA_888B_8CB8_968A_9EDB_5B85_5FB7_60B3_5012_5200⟩,
  ⟨0x5370, 0x5230_5716_5835_5857_5C0E_5C60_5CF6_5D8B_5EA6_5F92_60BC_6311_6389_6417_6843_0000⟩,
  ⟨0x5420, 0x0000_68F9_6AC2_6DD8_6E21_6ED4_6FE4_71FE_76DC_7779_79B1_7A3B_8404_89A9_8CED_8DF3⟩,
  ⟨0x5430, 0x8E48_9003_9014_9053_90FD_934D_9676_97DC_6BD2_7006_7258_72A2_7368_7763_79BF_7BE4⟩,
  ⟨0x5440, 0x7E9B_8B80_58A9_60C7_6566_65FD_66BE_6C8C_711E_71C9_8C5A_9813_4E6D_7A81_4EDD_51AC⟩,
  ⟨0x5450, 0x51CD_52D5_540C_61A7_6771_6850_68DF_6D1E_6F7C_75BC_77B3_7AE5_80F4_8463_9285_515C⟩,
  ⟨0x5460, 0x6597_675C_6793_75D8_7AC7_8373_F95A_8C46_9017_982D_5C6F_81C0_829A_9041_906F_920D⟩,
  ⟨0x5470, 0x5F97_5D9D_6A59_71C8_767B_7B49_85E4_8B04_9127_9A30_5587_61F6_F95B_7669_7F85_0000⟩,
  ⟨0x5520, 0x0000_863F_87BA_88F8_908F_F95C_6D1B_70D9_73DE_7D61_843D_F95D_916A_99F1_F95E_4E82⟩,
  ⟨0x5530, 0x5375_6B04_6B12_703E_721B_862D_9E1E_524C_8FA3_5D50_64E5_652C_6B16_6FEB_7C43_7E9C⟩,
  ⟨0x5540, 0x85CD_8964_89BD_62C9_81D8_881F_5ECA_6717_6D6A_72FC_7405_746F_8782_90DE_4F86_5D0D⟩,
  ⟨0x5550, 0x5FA0_840A_51B7_63A0_7565_4EAE_5006_5169_51C9_6881_6A11_7CAE_7CB1_7CE7_826F_8AD2⟩,
  ⟨0x5560, 0x8F1B_91CF_4FB6_5137_52F5_5442_5EEC_616E_623E_65C5_6ADA_6FFE_792A_85DC_8823_95AD⟩,
  ⟨0x5570, 0x9A62_9A6A_9E97_9ECE_529B_66C6_6B77_701D_792B_8F62_9742_6190_6200_6523_6F23_0000⟩,
  ⟨0x5620, 0x0000_7149_7489_7DF4_806F_84EE_8F26_9023_934A_51BD_5217_52A3_6D0C_70C8_88C2_5EC9⟩,
  ⟨0x5630, 0x6582_6BAE_6FC2_7C3E_7375_4EE4_4F36_56F9_F95F_5CBA_5DBA_601C_73B2_7B2D_7F9A_7FCE⟩,
  ⟨0x5640, 0x8046_901E_9234_96F6_9748_9818_9F61_4F8B_6FA7_79AE_91B4_96B7_52DE_F960_6488_64C4⟩,
  ⟨0x5650, 0x6AD3_6F5E_7018_7210_76E7_8001_8606_865C_8DEF_8F05_9732_9B6F_9DFA_9E75_788C_797F⟩,
  ⟨0x5660, 0x7DA0_83C9_9304_9E7F_9E93_8AD6_58DF_5F04_6727_7027_74CF_7C60_807E_5121_7028_7262⟩,
  ⟨0x5670, 0x78CA_8CC2_8CDA_8CF4_96F7_4E86_50DA_5BEE_5ED6_6599_71CE_7642_77AD_804A_84FC_0000⟩,
  ⟨0x5720, 0x0000_907C_9B27_9F8D_58D8_5A41_5C62_6A13_6DDA_6F0F_763B_7D2F_7E37_851E_8938_93E4⟩,
  ⟨0x5730, 0x964B_5289_65D2_67F3_69B4_6D41_6E9C_700F_7409_7460_7559_7624_786B_8B2C_985E_516D⟩,
  ⟨0x5740, 0x622E_9678_4F96_502B_5D19_6DEA_7DB8_8F2A_5F8B_6144_6817_F961_9686_52D2_808B_51DC⟩,
  ⟨0x5750, 0x51CC_695E_7A1C_7DBE_83F1_9675_4FDA_5229_5398_540F_550E_5C65_60A7_674E_68A8_6D6C⟩,
  ⟨0x5760, 0x7281_72F8_7406_7483_F962_75E2_7C6C_7F79_7FB8_8389_88CF_88E1_91CC_91D0_96E2_9BC9⟩,
  ⟨0x5770, 0x541D_6F7E_71D0_7498_85FA_8EAA_96A3_9C57_9E9F_6797_6DCB_7433_81E8_9716_782C_0000⟩,
  ⟨0x5820, 0x0000_7ACB_7B20_7C92_6469_746A_75F2_78BC_78E8_99AC_9B54_9EBB_5BDE_5E55_6F20_819C⟩,
  ⟨0x5830, 0x83AB_9088_4E07_534D_5A29_5DD2_5F4E_6162_633D_6669_66FC_6EFF_6F2B_7063_779E_842C⟩,
  ⟨0x5840, 0x8513_883B_8F13_9945_9C3B_551C_62B9_672B_6CAB_8309_896A_977A_4EA1_5984_5FD8_5FD9⟩,
  ⟨0x5850, 0x671B_7DB2_7F54_8292_832B_83BD_8F1E_9099_57CB_59B9_5A92_5BD0_6627_679A_6885_6BCF⟩,
  ⟨0x5860, 0x7164_7F75_8CB7_8CE3_9081_9B45_8108_8C8A_964C_9A40_9EA5_5B5F_6C13_731B_76F2_76DF⟩,
  ⟨0x5870, 0x840C_51AA_8993_514D_5195_52C9_68C9_6C94_7704_7720_7DBF_7DEC_9762_9EB5_6EC5_0000⟩,
  ⟨0x5920, 0x0000_8511_51A5_540D_547D_660E_669D_6927_6E9F_76BF_7791_8317_84C2_879F_9169_9298⟩,
  ⟨0x5930, 0x9CF4_8882_4FAE_5192_52DF_59C6_5E3D_6155_6478_6479_66AE_67D0_6A21_6BCD_6BDB_725F⟩,
  ⟨0x5940, 0x7261_7441_7738_77DB_8017_82BC_8305_8B00_8B28_8C8C_6728_6C90_7267_76EE_7766_7A46⟩,
  ⟨0x5950, 0x9DA9_6B7F_6C92_5922_6726_8499_536F_5893_5999_5EDF_63CF_6634_6773_6E3A_732B_7AD7⟩,
  ⟨0x5960, 0x82D7_9328_52D9_5DEB_61AE_61CB_620A_62C7_64AB_65E0_6959_6B66_6BCB_7121_73F7_755D⟩,
  ⟨0x5970, 0x7E46_821E_8302_856A_8AA3_8CBF_9727_9D61_58A8_9ED8_5011_520E_543B_554F_6587_0000⟩,
  ⟨0x5A20, 0x0000_6C76_7D0A_7D0B_805E_868A_9580_96EF_52FF_6C95_7269_5473_5A9A_5C3E_5D4B_5F4C⟩,
  ⟨0x5A30, 0x5FAE_672A_68B6_6963_6E3C_6E44_7709_7C73_7F8E_8587_8B0E_8FF7_9761_9EF4_5CB7_60B6⟩,
  ⟨0x5A40, 0x610D_61AB_654F_65FB_65FC_6C11_6CEF_739F_73C9_7DE1_9594_5BC6_871C_8B10_525D_535A⟩,
  ⟨0x5A50, 0x62CD_640F_64B2_6734_6A38_6CCA_73C0_749E_7B94_7C95_7E1B_818A_8236_8584_8FEB_96F9⟩,
  ⟨0x5A60, 0x99C1_4F34_534A_53CD_53DB_62CC_642C_6500_6591_69C3_6CEE_6F58_73ED_7554_7622_76E4⟩,
  ⟨0x5A70, 0x76FC_78D0_78FB_792C_7D46_822C_87E0_8FD4_9812_98EF_52C3_62D4_64A5_6E24_6F51_0000⟩,
  ⟨0x5B20, 0x0000_767C_8DCB_91B1_9262_9AEE_9B43_5023_508D_574A_59A8_5C28_5E47_5F77_623F_653E⟩,
  ⟨0x5B30, 0x65B9_65C1_6609_678B_699C_6EC2_78C5_7D21_80AA_8180_822B_82B3_84A1_868C_8A2A_8B17⟩,
  ⟨0x5B40, 0x90A6_9632_9F90_500D_4FF3_F963_57F9_5F98_62DC_6392_676F_6E43_7119_76C3_80CC_80DA⟩,
  ⟨0x5B50, 0x88F4_88F5_8919_8CE0_8F29_914D_966A_4F2F_4F70_5E1B_67CF_6822_767D_767E_9B44_5E61⟩,
  ⟨0x5B60, 0x6A0A_7169_71D4_756A_F964_7E41_8543_85E9_98DC_4F10_7B4F_7F70_95A5_51E1_5E06_68B5⟩,
  ⟨0x5B70, 0x6C3E_6C4E_6CDB_72AF_7BC4_8303_6CD5_743A_50FB_5288_58C1_64D8_6A97_74A7_7656_0000⟩,
  ⟨0x5C20, 0x0000_78A7_8617_95E2_9739_F965_535E_5F01_8B8A_8FA8_8FAF_908A_5225_77A5_9C49_9F08⟩,
  ⟨0x5C30, 0x4E19_5002_5175_5C5B_5E77_661E_663A_67C4_68C5_70B3_7501_75C5_79C9_7ADD_8F27_9920⟩,
  ⟨0x5C40, 0x9A08_4FDD_5821_5831_5BF6_666E_6B65_6D11_6E7A_6F7D_73E4_752B_83E9_88DC_8913_8B5C⟩,
  ⟨0x5C50, 0x8F14_4F0F_50D5_5310_535C_5B93_5FA9_670D_798F_8179_832F_8514_8907_8986_8F39_8F3B⟩,
  ⟨0x5C60, 0x99A5_9C12_672C_4E76_4FF8_5949_5C01_5CEF_5CF0_6367_68D2_70FD_71A2_742B_7E2B_84EC⟩,
  ⟨0x5C70, 0x8702_9022_92D2_9CF3_4E0D_4ED8_4FEF_5085_5256_526F_5426_5490_57E0_592B_5A66_0000⟩,
  ⟨0x5D20, 0x0000_5B5A_5B75_5BCC_5E9C_F966_6276_6577_65A7_6D6E_6EA5_7236_7B26_7C3F_7F36_8150⟩,
  ⟨0x5D30, 0x8151_819A_8240_8299_83A9_8A03_8CA0_8CE6_8CFB_8D74_8DBA_90E8_91DC_961C_9644_99D9⟩,
  ⟨0x5D40, 0x9CE7_5317_5206_5429_5674_58B3_5954_596E_5FFF_61A4_626E_6610_6C7E_711A_76C6_7C89⟩,
  ⟨0x5D50, 0x7CDE_7D1B_82AC_8CC1_96F0_F967_4F5B_5F17_5F7F_62C2_5D29_670B_68DA_787C_7E43_9D6C⟩,
  ⟨0x5D60, 0x4E15_5099_5315_532A_5351_5983_5A62_5E87_60B2_618A_6249_6279_6590_6787_69A7_6BD4⟩,
  ⟨0x5D70, 0x6BD6_6BD7_6BD8_6CB8_F968_7435_75FA_7812_7891_79D5_79D8_7C83_7DCB_7FE1_80A5_0000⟩,
  ⟨0x5E20, 0x0000_813E_81C2_83F2_871A_88E8_8AB9_8B6C_8CBB_9119_975E_98DB_9F3B_56AC_5B2A_5F6C⟩,
  ⟨0x5E30, 0x658C_6AB3_6BAF_6D5C_6FF1_7015_725D_73AD_8CA7_8CD3_983B_6191_6C37_8058_9A01_4E4D⟩,
  ⟨0x5E40, 0x4E8B_4E9B_4ED5_4F3A_4F3C_4F7F_4FDF_50FF_53F2_53F8_5506_55E3_56DB_58EB_5962_5A11⟩,
  ⟨0x5E50, 0x5BEB_5BFA_5C04_5DF3_5E2B_5F99_601D_6368_659C_65AF_67F6_67FB_68AD_6B7B_6C99_6CD7⟩,
  ⟨0x5E60, 0x6E23_7009_7345_7802_793E_7940_7960_79C1_7BE9_7D17_7D72_8086_820D_838E_84D1_86C7⟩,
  ⟨0x5E70, 0x88DF_8A50_8A5E_8B1D_8CDC_8D66_8FAD_90AA_98FC_99DF_9E9D_524A_F969_6714_F96A_0000⟩,
  ⟨0x5F20, 0x0000_5098_522A_5C71_6563_6C55_73CA_7523_759D_7B97_849C_9178_9730_4E77_6492_6BBA⟩,
  ⟨0x5F30, 0x715E_85A9_4E09_F96B_6749_68EE_6E17_829F_8518_886B_63F7_6F81_9212_98AF_4E0A_50B7⟩,
  ⟨0x5F40, 0x50CF_511F_5546_55AA_5617_5B40_5C19_5CE0_5E38_5E8A_5EA0_5EC2_60F3_6851_6A61_6E58⟩,
  ⟨0x5F50, 0x723D_7240_72C0_76F8_7965_7BB1_7FD4_88F3_89F4_8A73_8C61_8CDE_971C_585E_74BD_8CFD⟩,
  ⟨0x5F60, 0x55C7_F96C_7A61_7D22_8272_7272_751F_7525_F96D_7B19_5885_58FB_5DBC_5E8F_5EB6_5F90⟩,
  ⟨0x5F70, 0x6055_6292_637F_654D_6691_66D9_66F8_6816_68F2_7280_745E_7B6E_7D6E_7DD6_7F72_0000⟩,
  ⟨0x6020, 0x0000_80E5_8212_85AF_897F_8A93_901D_92E4_9ECD_9F20_5915_596D_5E2D_60DC_6614_6673⟩,
  ⟨0x6030, 0x6790_6C50_6DC5_6F5F_77F3_78A9_84C6_91CB_932B_4ED9_50CA_5148_5584_5B0B_5BA3_6247⟩,
  ⟨0x6040, 0x657E_65CB_6E32_717D_7401_7444_7487_74BF_766C_79AA_7DDA_7E55_7FA8_817A_81B3_8239⟩,
  ⟨0x6050, 0x861A_87EC_8A75_8DE3_9078_9291_9425_994D_9BAE_5368_5C51_6954_6CC4_6D29_6E2B_820C⟩,
  ⟨0x6060, 0x859B_893B_8A2D_8AAA_96EA_9F67_5261_66B9_6BB2_7E96_87FE_8D0D_9583_965D_651D_6D89⟩,
  ⟨0x6070, 0x71EE_F96E_57CE_59D3_5BAC_6027_60FA_6210_661F_665F_7329_73F9_76DB_7701_7B6C_0000⟩,
  ⟨0x6120, 0x0000_8056_8072_8165_8AA0_9192_4E16_52E2_6B72_6D17_7A05_7B39_7D30_F96F_8CB0_53EC⟩,
  ⟨0x6130, 0x562F_5851_5BB5_5C0F_5C11_5DE2_6240_6383_6414_662D_68B3_6CBC_6D88_6EAF_701F_70A4⟩,
  ⟨0x6140, 0x71D2_7526_758F_758E_7619_7B11_7BE0_7C2B_7D20_7D39_852C_856D_8607_8A34_900D_9061⟩,
  ⟨0x6150, 0x90B5_92B7_97F6_9A37_4FD7_5C6C_675F_6D91_7C9F_7E8C_8B16_8D16_901F_5B6B_5DFD_640D⟩,
  ⟨0x6160, 0x84C0_905C_98E1_7387_5B8B_609A_677E_6DDE_8A1F_8AA6_9001_980C_5237_F970_7051_788E⟩,
  ⟨0x6170, 0x9396_8870_91D7_4FEE_53D7_55FD_56DA_5782_58FD_5AC2_5B88_5CAB_5CC0_5E25_6101_0000⟩,
  ⟨0x6220, 0x0000_620D_624B_6388_641C_6536_6578_6A39_6B8A_6C34_6D19_6F31_71E7_72E9_7378_7407⟩,
  ⟨0x6230, 0x74B2_7626_7761_79C0_7A57_7AEA_7CB9_7D8F_7DAC_7E61_7F9E_8129_8331_8490_84DA_85EA⟩,
  ⟨0x6240, 0x8896_8AB0_8B90_8F38_9042_9083_916C_9296_92B9_968B_96A7_96A8_96D6_9700_9808_9996⟩,
  ⟨0x6250, 0x9AD3_9B1A_53D4_587E_5919_5B70_5BBF_6DD1_6F5A_719F_7421_74B9_8085_83FD_5DE1_5F87⟩,
  ⟨0x6260, 0x5FAA_6042_65EC_6812_696F_6A53_6B89_6D35_6DF3_73E3_76FE_77AC_7B4D_7D14_8123_821C⟩,
  ⟨0x6270, 0x8340_84F4_8563_8A62_8AC4_9187_931E_9806_99B4_620C_8853_8FF0_9265_5D07_5D27_0000⟩,
  ⟨0x6320, 0x0000_5D69_745F_819D_8768_6FD5_62FE_7FD2_8936_8972_4E1E_4E58_50E7_52DD_5347_627F⟩,
  ⟨0x6330, 0x6607_7E69_8805_965E_4F8D_5319_5636_59CB_5AA4_5C38_5C4E_5C4D_5E02_5F11_6043_65BD⟩,
  ⟨0x6340, 0x662F_6642_67BE_67F4_731C_77E2_793A_7FC5_8494_84CD_8996_8A66_8A69_8AE1_8C55_8C7A⟩,
  ⟨0x6350, 0x57F4_5BD4_5F0F_606F_62ED_690D_6B96_6E5C_7184_7BD2_8755_8B58_8EFE_98DF_98FE_4F38⟩,
  ⟨0x6360, 0x4F81_4FE1_547B_5A20_5BB8_613C_65B0_6668_71FC_7533_795E_7D33_814E_81E3_8398_85AA⟩,
  ⟨0x6370, 0x85CE_8703_8A0A_8EAB_8F9B_F971_8FC5_5931_5BA4_5BE6_6089_5BE9_5C0B_5FC3_6C81_0000⟩,
  ⟨0x6420, 0x0000_F972_6DF1_700B_751A_82AF_8AF6_4EC0_5341_F973_96D9_6C0F_4E9E_4FC4_5152_555E⟩,
  ⟨0x6430, 0x5A25_5CE8_6211_7259_82BD_83AA_86FE_8859_8A1D_963F_96C5_9913_9D09_9D5D_580A_5CB3⟩,
  ⟨0x6440, 0x5DBD_5E44_60E1_6115_63E1_6A02_6E25_9102_9354_984E_9C10_9F77_5B89_5CB8_6309_664F⟩,
  ⟨0x6450, 0x6848_773C_96C1_978D_9854_9B9F_65A1_8B01_8ECB_95BC_5535_5CA9_5DD6_5EB5_6697_764C⟩,
  ⟨0x6460, 0x83F4_95C7_58D3_62BC_72CE_9D28_4EF0_592E_600F_663B_6B83_79E7_9D26_5393_54C0_57C3⟩,
  ⟨0x6470, 0x5D16_611B_66D6_6DAF_788D_827E_9698_9744_5384_627C_6396_6DB2_7E0A_814B_984D_0000⟩,
  ⟨0x6520, 0x0000_6AFB_7F4C_9DAF_9E1A_4E5F_503B_51B6_591C_60F9_63F6_6930_723A_8036_F974_91CE⟩,
  ⟨0x6530, 0x5F31_F975_F976_7D04_82E5_846F_84BB_85E5_8E8D_F977_4F6F_F978_F979_58E4_5B43_6059⟩,
  ⟨0x6540, 0x63DA_6518_656D_6698_F97A_694A_6A23_6D0B_7001_716C_75D2_760D_79B3_7A70_F97B_7F8A⟩,
  ⟨0x6550, 0xF97C_8944_F97D_8B93_91C0_967D_F97E_990A_5704_5FA1_65BC_6F01_7600_79A6_8A9E_99AD⟩,
  ⟨0x6560, 0x9B5A_9F6C_5104_61B6_6291_6A8D_81C6_5043_5830_5F66_7109_8A00_8AFA_5B7C_8616_4FFA⟩,
  ⟨0x6570, 0x513C_56B4_5944_63A9_6DF9_5DAA_696D_5186_4E88_4F59_F97F_F980_F981_5982_F982_0000⟩,
  ⟨0x6620, 0x0000_F983_6B5F_6C5D_F984_74B5_7916_F985_8207_8245_8339_8F3F_8F5D_F986_9918_F987⟩,
  ⟨0x6630, 0xF988_F989_4EA6_F98A_57DF_5F79_6613_F98B_F98C_75AB_7E79_8B6F_F98D_9006_9A5B_56A5⟩,
  ⟨0x6640, 0x5827_59F8_5A1F_5BB4_F98E_5EF6_F98F_F990_6350_633B_F991_693D_6C87_6CBF_6D8E_6D93⟩,
  ⟨0x6650, 0x6DF5_6F14_F992_70DF_7136_7159_F993_71C3_71D5_F994_784F_786F_F995_7B75_7DE3_F996⟩,
  ⟨0x6660, 0x7E2F_F997_884D_8EDF_F998_F999_F99A_925B_F99B_9CF6_F99C_F99D_F99E_6085_6D85_F99F⟩,
  ⟨0x6670, 0x71B1_F9A0_F9A1_95B1_53AD_F9A2_F9A3_F9A4_67D3_F9A5_708E_7130_7430_8276_82D2_0000⟩,
  ⟨0x6720, 0x0000_F9A6_95BB_9AE5_9E7D_66C4_F9A7_71C1_8449_F9A8_F9A9_584B_F9AA_F9AB_5DB8_5F71⟩,
  ⟨0x6730, 0xF9AC_6620_668E_6979_69AE_6C38_6CF3_6E36_6F41_6FDA_701B_702F_7150_71DF_7370_F9AD⟩,
  ⟨0x6740, 0x745B_F9AE_74D4_76C8_7A4E_7E93_F9AF_F9B0_82F1_8A60_8FCE_F9B1_9348_F9B2_9719_F9B3⟩,
  ⟨0x6750, 0xF9B4_4E42_502A_F9B5_5208_53E1_66F3_6C6D_6FCA_730A_777F_7A62_82AE_85DD_8602_F9B6⟩,
  ⟨0x6760, 0x88D4_8A63_8B7D_8C6B_F9B7_92B3_F9B8_9713_9810_4E94_4F0D_4FC9_50B2_5348_543E_5433⟩,
  ⟨0x6770, 0x55DA_5862_58BA_5967_5A1B_5BE4_609F_F9B9_61CA_6556_65FF_6664_68A7_6C5A_6FB3_0000⟩,
  ⟨0x6820, 0x0000_70CF_71AC_7352_7B7D_8708_8AA4_9C32_9F07_5C4B_6C83_7344_7389_923A_6EAB_7465⟩,
  ⟨0x6830, 0x761F_7A69_7E15_860A_5140_58C5_64C1_74EE_7515_7670_7FC1_9095_96CD_9954_6E26_74E6⟩,
  ⟨0x6840, 0x7AA9_7AAA_81E5_86D9_8778_8A1B_5A49_5B8C_5B9B_68A1_6900_6D63_73A9_7413_742C_7897⟩,
  ⟨0x6850, 0x7DE9_7FEB_8118_8155_839E_8C4C_962E_9811_66F0_5F80_65FA_6789_6C6A_738B_502D_5A03⟩,
  ⟨0x6860, 0x6B6A_77EE_5916_5D6C_5DCD_7325_754F_F9BA_F9BB_50E5_51F9_582F_592D_5996_59DA_5BE5⟩,
  ⟨0x6870, 0xF9BC_F9BD_5DA2_62D7_6416_6493_64FE_F9BE_66DC_F9BF_6A48_F9C0_71FF_7464_F9C1_0000⟩,
  ⟨0x6920, 0x0000_7A88_7AAF_7E47_7E5E_8000_8170_F9C2_87EF_8981_8B20_9059_F9C3_9080_9952_617E⟩,
  ⟨0x6930, 0x6B32_6D74_7E1F_8925_8FB1_4FD1_50AD_5197_52C7_57C7_5889_5BB9_5EB8_6142_6995_6D8C⟩,
  ⟨0x6940, 0x6E67_6EB6_7194_7462_7528_752C_8073_8338_84C9_8E0A_9394_93DE_F9C4_4E8E_4F51_5076⟩,
  ⟨0x6950, 0x512A_53C8_53CB_53F3_5B87_5BD3_5C24_611A_6182_65F4_725B_7397_7440_76C2_7950_7991⟩,
  ⟨0x6960, 0x79B9_7D06_7FBD_828B_85D5_865E_8FC2_9047_90F5_91EA_9685_96E8_96E9_52D6_5F67_65ED⟩,
  ⟨0x6970, 0x6631_682F_715C_7A36_90C1_980A_4E91_F9C5_6A52_6B9E_6F90_7189_8018_82B8_8553_0000⟩,
  ⟨0x6A20, 0x0000_904B_9695_96F2_97FB_851A_9B31_4E90_718A_96C4_5143_539F_54E1_5713_5712_57A3⟩,
  ⟨0x6A30, 0x5A9B_5AC4_5BC3_6028_613F_63F4_6C85_6D39_6E72_6E90_7230_733F_7457_82D1_8881_8F45⟩,
  ⟨0x6A40, 0x9060_F9C6_9662_9858_9D1B_6708_8D8A_925E_4F4D_5049_50DE_5371_570D_59D4_5A01_5C09⟩,
  ⟨0x6A50, 0x6170_6690_6E2D_7232_744B_7DEF_80C3_840E_8466_853F_875F_885B_8918_8B02_9055_97CB⟩,
  ⟨0x6A60, 0x9B4F_4E73_4F91_5112_516A_F9C7_552F_55A9_5B7A_5BA5_5E7C_5E7D_5EBE_60A0_60DF_6108⟩,
  ⟨0x6A70, 0x6109_63C4_6538_6709_F9C8_67D4_67DA_F9C9_6961_6962_6CB9_6D27_F9CA_6E38_F9CB_0000⟩,
  ⟨0x6B20, 0x0000_6FE1_7336_7337_F9CC_745C_7531_F9CD_7652_F9CE_F9CF_7DAD_81FE_8438_88D5_8A98⟩,
  ⟨0x6B30, 0x8ADB_8AED_8E30_8E42_904A_903E_907A_9149_91C9_936E_F9D0_F9D1_5809_F9D2_6BD3_8089⟩,
  ⟨0x6B40, 0x80B2_F9D3_F9D4_5141_596B_5C39_F9D5_F9D6_6F64_73A7_80E4_8D07_F9D7_9217_958F_F9D8⟩,
  ⟨0x6B50, 0xF9D9_F9DA_F9DB_807F_620E_701C_7D68_878D_F9DC_57A0_6069_6147_6BB7_8ABE_9280_96B1⟩,
  ⟨0x6B60, 0x4E59_541F_6DEB_852D_9670_97F3_98EE_63D6_6CE3_9091_51DD_61C9_81BA_9DF9_4F9D_501A⟩,
  ⟨0x6B70, 0x5100_5B9C_610F_61FF_64EC_6905_6BC5_7591_77E3_7FA9_8264_858F_87FB_8863_8ABC_0000⟩,
  ⟨0x6C20, 0x0000_8B70_91AB_4E8C_4EE5_4F0A_F9DD_F9DE_5937_59E8_F9DF_5DF2_5F1B_5F5B_6021_F9E0⟩,
  ⟨0x6C30, 0xF9E1_F9E2_F9E3_723E_73E5_F9E4_7570_75CD_F9E5_79FB_F9E6_800C_8033_8084_82E1_8351⟩,
  ⟨0x6C40, 0xF9E7_F9E8_8CBD_8CB3_9087_F9E9_F9EA_98F4_990C_F9EB_F9EC_7037_76CA_7FCA_7FCC_7FFC⟩,
  ⟨0x6C50, 0x8B1A_4EBA_4EC1_5203_5370_F9ED_54BD_56E0_59FB_5BC5_5F15_5FCD_6E6E_F9EE_F9EF_7D6A⟩,
  ⟨0x6C60, 0x8335_F9F0_8693_8A8D_F9F1_976D_9777_F9F2_F9F3_4E00_4F5A_4F7E_58F9_65E5_6EA2_9038⟩,
  ⟨0x6C70, 0x93B0_99B9_4EFB_58EC_598A_59D9_6041_F9F4_F9F5_7A14_F9F6_834F_8CC3_5165_5344_0000⟩,
  ⟨0x6D20, 0x0000_F9F7_F9F8_F9F9_4ECD_5269_5B55_82BF_4ED4_523A_54A8_59C9_59FF_5B50_5B57_5B5C⟩,
  ⟨0x6D30, 0x6063_6148_6ECB_7099_716E_7386_74F7_75B5_78C1_7D2B_8005_81EA_8328_8517_85C9_8AEE⟩,
  ⟨0x6D40, 0x8CC7_96CC_4F5C_52FA_56BC_65AB_6628_707C_70B8_7235_7DBD_828D_914C_96C0_9D72_5B71⟩,
  ⟨0x6D50, 0x68E7_6B98_6F7A_76DE_5C91_66AB_6F5B_7BB4_7C2A_8836_96DC_4E08_4ED7_5320_5834_58BB⟩,
  ⟨0x6D60, 0x58EF_596C_5C07_5E33_5E84_5F35_638C_66B2_6756_6A1F_6AA3_6B0C_6F3F_7246_F9FA_7350⟩,
  ⟨0x6D70, 0x748B_7AE0_7CA7_8178_81DF_81E7_838A_846C_8523_8594_85CF_88DD_8D13_91AC_9577_0000⟩,
  ⟨0x6E20, 0x0000_969C_518D_54C9_5728_5BB0_624D_6750_683D_6893_6E3D_6ED3_707D_7E21_88C1_8CA1⟩,
  ⟨0x6E30, 0x8F09_9F4B_9F4E_722D_7B8F_8ACD_931A_4F47_4F4E_5132_5480_59D0_5E95_62B5_6775_696E⟩,
  ⟨0x6E40, 0x6A17_6CAE_6E1A_72D9_732A_75BD_7BB8_7D35_82E7_83F9_8457_85F7_8A5B_8CAF_8E87_9019⟩,
  ⟨0x6E50, 0x90B8_96CE_9F5F_52E3_540A_5AE1_5BC2_6458_6575_6EF4_72C4_F9FB_7684_7A4D_7B1B_7C4D⟩,
  ⟨0x6E60, 0x7E3E_7FDF_837B_8B2B_8CCA_8D64_8DE1_8E5F_8FEA_8FF9_9069_93D1_4F43_4F7A_50B3_5168⟩,
  ⟨0x6E70, 0x5178_524D_526A_5861_587C_5960_5C08_5C55_5EDB_609B_6230_6813_6BBF_6C08_6FB1_0000⟩,
  ⟨0x6F20, 0x0000_714E_7420_7530_7538_7551_7672_7B4C_7B8B_7BAD_7BC6_7E8F_8A6E_8F3E_8F49_923F⟩,
  ⟨0x6F30, 0x9293_9322_942B_96FB_985A_986B_991E_5207_622A_6298_6D59_7664_7ACA_7BC0_7D76_5360⟩,
  ⟨0x6F40, 0x5CBE_5E97_6F38_70B9_7C98_9711_9B8E_9EDE_63A5_647A_8776_4E01_4E95_4EAD_505C_5075⟩,
  ⟨0x6F50, 0x5448_59C3_5B9A_5E40_5EAD_5EF7_5F81_60C5_633A_653F_6574_65CC_6676_6678_67FE_6968⟩,
  ⟨0x6F60, 0x6A89_6B63_6C40_6DC0_6DE8_6E1F_6E5E_701E_70A1_738E_73FD_753A_775B_7887_798E_7A0B⟩,
  ⟨0x6F70, 0x7A7D_7CBE_7D8E_8247_8A02_8AEA_8C9E_912D_914A_91D8_9266_92CC_9320_9706_9756_0000⟩,
  ⟨0x7020, 0x0000_975C_9802_9F0E_5236_5291_557C_5824_5E1D_5F1F_608C_63D0_68AF_6FDF_796D_7B2C⟩,
  ⟨0x7030, 0x81CD_85BA_88FD_8AF8_8E44_918D_9664_969B_973D_984C_9F4A_4FCE_5146_51CB_52A9_5632⟩,
  ⟨0x7040, 0x5F14_5F6B_63AA_64CD_65E9_6641_66FA_66F9_671D_689D_68D7_69FD_6F15_6F6E_7167_71E5⟩,
  ⟨0x7050, 0x722A_74AA_773A_7956_795A_79DF_7A20_7A95_7C97_7CDF_7D44_7E70_8087_85FB_86A4_8A54⟩,
  ⟨0x7060, 0x8ABF_8D99_8E81_9020_906D_91E3_963B_96D5_9CE5_65CF_7C07_8DB3_93C3_5B58_5C0A_5352⟩,
  ⟨0x7070, 0x62D9_731D_5027_5B97_5F9E_60B0_616B_68D5_6DD9_742E_7A2E_7D42_7D9C_7E31_816B_0000⟩,
  ⟨0x7120, 0x0000_8E2A_8E35_937E_9418_4F50_5750_5DE6_5EA7_632B_7F6A_4E3B_4F4F_4F8F_505A_59DD⟩,
  ⟨0x7130, 0x80C4_546A_5468_55FE_594F_5B99_5DDE_5EDA_665D_6731_67F1_682A_6CE8_6D32_6E4A_6F8D⟩,
  ⟨0x7140, 0x70B7_73E0_7587_7C4C_7D02_7D2C_7DA2_821F_86DB_8A3B_8A85_8D70_8E8A_8F33_9031_914E⟩,
  ⟨0x7150, 0x9152_9444_99D0_7AF9_7CA5_4FCA_5101_51C6_57C8_5BEF_5CFB_6659_6A3D_6D5A_6E96_6FEC⟩,
  ⟨0x7160, 0x710C_756F_7AE3_8822_9021_9075_96CB_99FF_8301_4E2D_4EF2_8846_91CD_537D_6ADB_696B⟩,
  ⟨0x7170, 0x6C41_847A_589E_618E_66FE_62EF_70DD_7511_75C7_7E52_84B8_8B49_8D08_4E4B_53EA_0000⟩,
  ⟨0x7220, 0x0000_54AB_5730_5740_5FD7_6301_6307_646F_652F_65E8_667A_679D_67B3_6B62_6C60_6C9A⟩,
  ⟨0x7230, 0x6F2C_77E5_7825_7949_7957_7D19_80A2_8102_81F3_829D_82B7_8718_8A8C_F9FC_8D04_8DBE⟩,
  ⟨0x7240, 0x9072_76F4_7A19_7A37_7E54_8077_5507_55D4_5875_632F_6422_6649_664B_686D_699B_6B84⟩,
  ⟨0x7250, 0x6D25_6EB1_73CD_7468_74A1_755B_75B9_76E1_771E_778B_79E6_7E09_7E1D_81FB_852F_8897⟩,
  ⟨0x7260, 0x8A3A_8CD1_8EEB_8FB0_9032_93AD_9663_9673_9707_4F84_53F1_59EA_5AC9_5E19_684E_74C6⟩,
  ⟨0x7270, 0x75BE_79E9_7A92_81A3_86ED_8CEA_8DCC_8FED_659F_6715_F9FD_57F7_6F57_7DDD_8F2F_0000⟩,
  ⟨0x7320, 0x0000_93F6_96C6_5FB5_61F2_6F84_4E14_4F98_501F_53C9_55DF_5D6F_5DEE_6B21_6B64_78CB⟩,
  ⟨0x7330, 0x7B9A_F9FE_8E49_8ECA_906E_6349_643E_7740_7A84_932F_947F_9F6A_64B0_6FAF_71E6_74A8⟩,
  ⟨0x7340, 0x74DA_7AC4_7C12_7E82_7CB2_7E98_8B9A_8D0A_947D_9910_994C_5239_5BDF_64E6_672D_7D2E⟩,
  ⟨0x7350, 0x50ED_53C3_5879_6158_6159_61FA_65AC_7AD9_8B92_8B96_5009_5021_5275_5531_5A3C_5EE0⟩,
  ⟨0x7360, 0x5F70_6134_655E_660C_6636_66A2_69CD_6EC4_6F32_7316_7621_7A93_8139_8259_83D6_84BC⟩,
  ⟨0x7370, 0x50B5_57F0_5BC0_5BE8_5F69_63A1_7826_7DB5_83DC_8521_91C7_91F5_518A_67F5_7B56_0000⟩,
  ⟨0x7420, 0x0000_8CAC_51C4_59BB_60BD_8655_501C_F9FF_5254_5C3A_617D_621A_62D3_64F2_65A5_6ECC⟩,
  ⟨0x7430, 0x7620_810A_8E60_965F_96BB_4EDF_5343_5598_5929_5DDD_64C5_6CC9_6DFA_7394_7A7F_821B⟩,
  ⟨0x7440, 0x85A6_8CE4_8E10_9077_91E7_95E1_9621_97C6_51F8_54F2_5586_5FB9_64A4_6F88_7DB4_8F1F⟩,
  ⟨0x7450, 0x8F4D_9435_50C9_5C16_6CBE_6DFB_751B_77BB_7C3D_7C64_8A79_8AC2_581E_59BE_5E16_6377⟩,
  ⟨0x7460, 0x7252_758A_776B_8ADC_8CBC_8F12_5EF3_6674_6DF8_807D_83C1_8ACB_9751_9BD6_FA00_5243⟩,
  ⟨0x7470, 0x66FF_6D95_6EEF_7DE0_8AE6_902E_905E_9AD4_521D_527F_54E8_6194_6284_62DB_68A2_0000⟩,
  ⟨0x7520, 0x0000_6912_695A_6A35_7092_7126_785D_7901_790E_79D2_7A0D_8096_8278_82D5_8349_8549⟩,
  ⟨0x7530, 0x8C82_8D85_9162_918B_91AE_4FC3_56D1_71ED_77D7_8700_89F8_5BF8_5FD6_6751_90A8_53E2⟩,
  ⟨0x7540, 0x585A_5BF5_60A4_6181_6460_7E3D_8070_8525_9283_64AE_50AC_5D14_6700_589C_62BD_63A8⟩,
  ⟨0x7550, 0x690E_6978_6A1E_6E6B_76BA_79CB_82BB_8429_8ACF_8DA8_8FFD_9112_914B_919C_9310_9318⟩,
  ⟨0x7560, 0x939A_96DB_9A36_9C0D_4E11_755C_795D_7AFA_7B51_7BC9_7E2E_84C4_8E59_8E74_8EF8_9010⟩,
  ⟨0x7570, 0x6625_693F_7443_51FA_672E_9EDC_5145_5FE0_6C96_87F2_885D_8877_60B4_81B5_8403_0000⟩,
  ⟨0x7620, 0x0000_8D05_53D6_5439_5634_5A36_5C31_708A_7FE0_805A_8106_81ED_8DA3_9189_9A5F_9DF2⟩,
  ⟨0x7630, 0x5074_4EC4_53A0_60FB_6E2C_5C64_4F88_5024_55E4_5CD9_5E5F_6065_6894_6CBB_6DC4_71BE⟩,
  ⟨0x7640, 0x75D4_75F4_7661_7A1A_7A49_7DC7_7DFB_7F6E_81F4_86A9_8F1C_96C9_99B3_9F52_5247_52C5⟩,
  ⟨0x7650, 0x98ED_89AA_4E03_67D2_6F06_4FB5_5BE2_6795_6C88_6D78_741B_7827_91DD_937C_87C4_79E4⟩,
  ⟨0x7660, 0x7A31_5FEB_4ED6_54A4_553E_58AE_59A5_60F0_6253_62D6_6736_6955_8235_9640_99B1_99DD⟩,
  ⟨0x7670, 0x502C_5353_5544_577C_FA01_6258_FA02_64E2_666B_67DD_6FC1_6FEF_7422_7438_8A17_0000⟩,
  ⟨0x7720, 0x0000_9438_5451_5606_5766_5F48_619A_6B4E_7058_70AD_7DBB_8A95_596A_812B_63A2_7708⟩,
  ⟨0x7730, 0x803D_8CAA_5854_642D_69BB_5B95_5E11_6E6F_FA03_8569_514C_53F0_592A_6020_614B_6B86⟩,
  ⟨0x7740, 0x6C70_6CF0_7B1E_80CE_82D4_8DC6_90B0_98B1_FA04_64C7_6FA4_6491_6504_514E_5410_571F⟩,
  ⟨0x7750, 0x8A0E_615F_6876_FA05_75DB_7B52_7D71_901A_5806_69CC_817F_892A_9000_9839_5078_5957⟩,
  ⟨0x7760, 0x59AC_6295_900F_9B2A_615D_7279_95D6_5761_5A46_5DF4_628A_64AD_64FA_6777_6CE2_6D3E⟩,
  ⟨0x7770, 0x722C_7436_7834_7F77_82AD_8DDB_9817_5224_5742_677F_7248_74E3_8CA9_8FA6_9211_0000⟩,
  ⟨0x7820, 0x0000_962A_516B_53ED_634C_4F69_5504_6096_6557_6C9B_6D7F_724C_72FD_7A17_8987_8C9D⟩,
  ⟨0x7830, 0x5F6D_6F8E_70F9_81A8_610E_4FBF_504F_6241_7247_7BC7_7DE8_7FE9_904D_97AD_9A19_8CB6⟩,
  ⟨0x7840, 0x576A_5E73_67B0_840D_8A55_5420_5B16_5E63_5EE2_5F0A_6583_80BA_853D_9589_965B_4F48⟩,
  ⟨0x7850, 0x5305_530D_530F_5486_54FA_5703_5E03_6016_629B_62B1_6355_FA06_6CE1_6D66_75B1_7832⟩,
  ⟨0x7860, 0x80DE_812F_82DE_8461_84B2_888D_8912_900B_92EA_98FD_9B91_5E45_66B4_66DD_7011_7206⟩,
  ⟨0x7870, 0xFA07_4FF5_527D_5F6A_6153_6753_6A19_6F02_74E2_7968_8868_8C79_98C7_98C4_9A43_0000⟩,
  ⟨0x7920, 0x0000_54C1_7A1F_6953_8AF7_8C4A_98A8_99AE_5F7C_62AB_75B2_76AE_88AB_907F_9642_5339⟩,
  ⟨0x7930, 0x5F3C_5FC5_6CCC_73CC_7562_758B_7B46_82FE_999D_4E4F_903C_4E0B_4F55_53A6_590F_5EC8⟩,
  ⟨0x7940, 0x6630_6CB3_7455_8377_8766_8CC0_9050_971E_9C15_58D1_5B78_8650_8B14_9DB4_5BD2_6068⟩,
  ⟨0x7950, 0x608D_65F1_6C57_6F22_6FA3_701A_7F55_7FF0_9591_9592_9650_97D3_5272_8F44_51FD_542B⟩,
  ⟨0x7960, 0x54B8_5563_558A_6ABB_6DB5_7DD8_8266_929C_9677_9E79_5408_54C8_76D2_86E4_95A4_95D4⟩,
  ⟨0x7970, 0x965C_4EA2_4F09_59EE_5AE6_5DF7_6052_6297_676D_6841_6C86_6E2F_7F38_809B_822A_0000⟩,
  ⟨0x7A20, 0x0000_FA08_FA09_9805_4EA5_5055_54B3_5793_595A_5B69_5BB3_61C8_6977_6D77_7023_87F9⟩,
  ⟨0x7A30, 0x89E3_8A72_8AE7_9082_99ED_9AB8_52BE_6838_5016_5E78_674F_8347_884C_4EAB_5411_56AE⟩,
  ⟨0x7A40, 0x73E6_9115_97FF_9909_9957_9999_5653_589F_865B_8A31_61B2_6AF6_737B_8ED2_6B47_96AA⟩,
  ⟨0x7A50, 0x9A57_5955_7200_8D6B_9769_4FD4_5CF4_5F26_61F8_665B_6CEB_70AB_7384_73B9_73FE_7729⟩,
  ⟨0x7A60, 0x774D_7D43_7D62_7E23_8237_8852_FA0A_8CE2_9249_986F_5B51_7A74_8840_9801_5ACC_4FE0⟩,
  ⟨0x7A70, 0x5354_593E_5CFD_633E_6D79_72F9_8105_8107_83A2_92CF_9830_4EA8_5144_5211_578B_0000⟩,
  ⟨0x7B20, 0x0000_5F62_6CC2_6ECE_7005_7050_70AF_7192_73E9_7469_834A_87A2_8861_9008_90A2_93A3⟩,
  ⟨0x7B30, 0x99A8_516E_5F57_60E0_6167_66B3_8559_8E4A_91AF_978B_4E4E_4E92_547C_58D5_58FA_597D⟩,
  ⟨0x7B40, 0x5CB5_5F27_6236_6248_660A_6667_6BEB_6D69_6DCF_6E56_6EF8_6F94_6FE0_6FE9_705D_72D0⟩,
  ⟨0x7B50, 0x7425_745A_74E0_7693_795C_7CCA_7E1E_80E1_82A6_846B_84BF_864E_865F_8774_8B77_8C6A⟩,
  ⟨0x7B60, 0x93AC_9800_9865_60D1_6216_9177_5A5A_660F_6DF7_6E3E_743F_9B42_5FFD_60DA_7B0F_54C4⟩,
  ⟨0x7B70, 0x5F18_6C5E_6CD3_6D2A_70D8_7D05_8679_8A0C_9D3B_5316_548C_5B05_6A3A_706B_7575_0000⟩,
  ⟨0x7C20, 0x0000_798D_79BE_82B1_83EF_8A71_8B41_8CA8_9774_FA0B_64F4_652B_78BA_78BB_7A6B_4E38⟩,
  ⟨0x7C30, 0x559A_5950_5BA6_5E7B_60A3_63DB_6B61_6665_6853_6E19_7165_74B0_7D08_9084_9A69_9C25⟩,
  ⟨0x7C40, 0x6D3B_6ED1_733E_8C41_95CA_51F0_5E4C_5FA8_604D_60F6_6130_614C_6643_6644_69A5_6CC1⟩,
  ⟨0x7C50, 0x6E5F_6EC9_6F62_714C_749C_7687_7BC1_7C27_8352_8757_9051_968D_9EC3_532F_56DE_5EFB⟩,
  ⟨0x7C60, 0x5F8A_6062_6094_61F7_6666_6703_6A9C_6DEE_6FAE_7070_736A_7E6A_81BE_8334_86D4_8AA8⟩,
  ⟨0x7C70, 0x8CC4_5283_7372_5B96_6A6B_9404_54EE_5686_5B5D_6548_6585_66C9_689F_6D8D_6DC6_0000⟩,
  ⟨0x7D20, 0x0000_723B_80B4_9175_9A4D_4FAF_5019_539A_540E_543C_5589_55C5_5E3F_5F8C_673D_7166⟩,
  ⟨0x7D30, 0x73DD_9005_52DB_52F3_5864_58CE_7104_718F_71FB_85B0_8A13_6688_85A8_55A7_6684_714A⟩,
  ⟨0x7D40, 0x8431_5349_5599_6BC1_5F59_5FBD_63EE_6689_7147_8AF1_8F1D_9EBE_4F11_643A_70CB_7566⟩,
  ⟨0x7D50, 0x8667_6064_8B4E_9DF8_5147_51F6_5308_6D36_80F8_9ED1_6615_6B23_7098_75D5_5403_5C79⟩,
  ⟨0x7D60, 0x7D07_8A16_6B20_6B3D_6B46_5438_6070_6D3D_7FD5_8208_50D6_51DE_559C_566B_56CD_59EC⟩,
  ⟨0x7D70, 0x5B09_5E0C_6199_6198_6231_665E_66E6_7199_71B9_71BA_72A7_79A7_7A00_7FB2_8A70_0000⟩]

def ksX1001 : CodeTable := .ofColumns ksX1001Columns

end CodeExtension.Standard
