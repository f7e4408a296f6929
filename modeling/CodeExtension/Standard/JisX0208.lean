import CodeExtension.CodeTable

/-! JIS X 0208, the Japanese set of kanji, kana and symbols. Rows 0x2D and 0x75 onwards are empty.
-/
namespace CodeExtension.Standard

def jisX0208Columns : List Column := [
  ⟨0x2120, 0x0000_3000_3001_3002_FF0C_FF0E_30FB_FF1A_FF1B_FF1F_FF01_309B_309C_00B4_FF40_00A8⟩,
  ⟨0x2130, 0xFF3E_FFE3_FF3F_30FD_30FE_309D_309E_3003_4EDD_3005_3006_3007_30FC_2015_2010_FF0F⟩,
  ⟨0x2140, 0xFF3C_FF5E_2225_FF5C_2026_2025_2018_2019_201C_201D_FF08_FF09_3014_3015_FF3B_FF3D⟩,
  ⟨0x2150, 0xFF5B_FF5D_3008_3009_300A_300B_300C_300D_300E_300F_3010_3011_FF0B_FF0D_00B1_00D7⟩,
  ⟨0x2160, 0x00F7_FF1D_2260_FF1C_FF1E_2266_2267_221E_2234_2642_2640_00B0_2032_2033_2103_FFE5⟩,
  ⟨0x2170, 0xFF04_FFE0_FFE1_FF05_FF03_FF06_FF0A_FF20_00A7_2606_2605_25CB_25CF_25CE_25C7_0000⟩,
  ⟨0x2220, 0x0000_25C6_25A1_25A0_25B3_25B2_25BD_25BC_203B_3012_2192_2190_2191_2193_3013_0000⟩,
  ⟨0x2230, 0x0000_0000_0000_0000_0000_0000_0000_0000_0000_0000_2208_220B_2286_2287_2282_2283⟩,
  ⟨0x2240, 0x222A_2229_0000_0000_0000_0000_0000_0000_0000_0000_2227_2228_FFE2_21D2_21D4_2200⟩,
  ⟨0x2250, 0x2203_0000_0000_0000_0000_0000_0000_0000_0000_0000_0000_0000_2220_22A5_2312_2202⟩,
  ⟨0x2260, 0x2207_2261_2252_226A_226B_221A_223D_221D_2235_222B_222C_0000_0000_0000_0000_0000⟩,
  ⟨0x2270, 0x0000_0000_212B_2030_266F_266D_266A_2020_2021_00B6_0000_0000_0000_0000_25EF_0000⟩,
  ⟨0x2330, 0xFF10_FF11_FF12_FF13_FF14_FF15_FF16_FF17_FF18_FF19_0000_0000_0000_0000_0000_0000⟩,
  ⟨0x2340, 0x0000_FF21_FF22_FF23_FF24_FF25_FF26_FF27_FF28_FF29_FF2A_FF2B_FF2C_FF2D_FF2E_FF2F⟩,
  ⟨0x2350, 0xFF30_FF31_FF32_FF33_FF34_FF35_FF36_FF37_FF38_FF39_FF3A_0000_0000_0000_0000_0000⟩,
  ⟨0x2360, 0x0000_FF41_FF42_FF43_FF44_FF45_FF46_FF47_FF48_FF49_FF4A_FF4B_FF4C_FF4D_FF4E_FF4F⟩,
  ⟨0x2370, 0xFF50_FF51_FF52_FF53_FF54_FF55_FF56_FF57_FF58_FF59_FF5A_0000_0000_0000_0000_0000⟩,
  ⟨0x2420, 0x0000_3041_3042_3043_3044_3045_3046_3047_3048_3049_304A_304B_304C_304D_304E_304F⟩,
  ⟨0x2430, 0x3050_3051_3052_3053_3054_3055_3056_3057_3058_3059_305A_305B_305C_305D_305E_305F⟩,
  ⟨0x2440, 0x3060_3061_3062_3063_3064_3065_3066_3067_3068_3069_306A_306B_306C_306D_306E_306F⟩,
  ⟨0x2450, 0x3070_3071_3072_3073_3074_3075_3076_3077_3078_3079_307A_307B_307C_307D_307E_307F⟩,
  ⟨0x2460, 0x3080_3081_3082_3083_3084_3085_3086_3087_3088_3089_308A_308B_308C_308D_308E_308F⟩,
  ⟨0x2470, 0x3090_3091_3092_3093_0000_0000_0000_0000_0000_0000_0000_0000_0000_0000_0000_0000⟩,
  ⟨0x2520, 0x0000_30A1_30A2_30A3_30A4_30A5_30A6_30A7_30A8_30A9_30AA_30AB_30AC_30AD_30AE_30AF⟩,
  ⟨0x2530, 0x30B0_30B1_30B2_30B3_30B4_30B5_30B6_30B7_30B8_30B9_30BA_30BB_30BC_30BD_30BE_30BF⟩,
  ⟨0x2540, 0x30C0_30C1_30C2_30C3_30C4_30C5_30C6_30C7_30C8_30C9_30CA_30CB_30CC_30CD_30CE_30CF⟩,
  ⟨0x2550, 0x30D0_30D1_30D2_30D3_30D4_30D5_30D6_30D7_30D8_30D9_30DA_30DB_30DC_30DD_30DE_30DF⟩,
  ⟨0x2560, 0x30E0_30E1_30E2_30E3_30E4_30E5_30E6_30E7_30E8_30E9_30EA_30EB_30EC_30ED_30EE_30EF⟩,
  ⟨0x2570, 0x30F0_30F1_30F2_30F3_30F4_30F5_30F6_0000_0000_0000_0000_0000_0000_0000_0000_0000⟩,
  ⟨0x2620, 0x0000_0391_0392_0393_0394_0395_0396_0397_0398_0399_039A_039B_039C_039D_039E_039F⟩,
  ⟨0x2630, 0x03A0_03A1_03A3_03A4_03A5_03A6_03A7_03A8_03A9_0000_0000_0000_0000_0000_0000_0000⟩,
  ⟨0x2640, 0x0000_03B1_03B2_03B3_03B4_03B5_03B6_03B7_03B8_03B9_03BA_03BB_03BC_03BD_03BE_03BF⟩,
  ⟨0x2650, 0x03C0_03C1_03C3_03C4_03C5_03C6_03C7_03C8_03C9_0000_0000_0000_0000_0000_0000_0000⟩,
  ⟨0x2720, 0x0000_0410_0411_0412_0413_0414_0415_0401_0416_0417_0418_0419_041A_041B_041C_041D⟩,
  ⟨0x2730, 0x041E_041F_0420_0421_0422_0423_0424_0425_0426_0427_0428_0429_042A_042B_042C_042D⟩,
  ⟨0x2740, 0x042E_042F_0000_0000_0000_0000_0000_0000_0000_0000_0000_0000_0000_0000_0000_0000⟩,
  ⟨0x2750, 0x0000_0430_0431_0432_0433_0434_0435_0451_0436_0437_0438_0439_043A_043B_043C_043D⟩,
  ⟨0x2760, 0x043E_043F_0440_0441_0442_0443_0444_0445_0446_0447_0448_0449_044A_044B_044C_044D⟩,
  ⟨0x2770, 0x044E_044F_0000_0000_0000_0000_0000_0000_0000_0000_0000_0000_0000_0000_0000_0000⟩,
  ⟨0x2820, 0x0000_2500_2502_250C_2510_2518_2514_251C_252C_2524_2534_253C_2501_2503_250F_2513⟩,
  ⟨0x2830, 0x251B_2517_2523_2533_252B_253B_254B_2520_252F_2528_2537_253F_251D_2530_2525_2538⟩,
  ⟨0x2840, 0x2542_0000_0000_0000_0000_0000_0000_0000_0000_0000_0000_0000_0000_0000_0000_0000⟩,
  ⟨0x3020, 0x0000_4E9C_5516_5A03_963F_54C0_611B_6328_59F6_9022_8475_831C_7A50_60AA_63E1_6E25⟩,
  ⟨0x3030, 0x65ED_8466_82A6_9BF5_6893_5727_65A1_6271_5B9B_59D0_867B_98F4_7D62_7DBE_9B8E_6216⟩,
  ⟨0x3040, 0x7C9F_88B7_5B89_5EB5_6309_6697_6848_95C7_978D_674F_4EE5_4F0A_4F4D_4F9D_5049_56F2⟩,
  ⟨0x3050, 0x5937_59D4_5A01_5C09_60DF_610F_6170_6613_6905_70BA_754F_7570_79FB_7DAD_7DEF_80C3⟩,
  ⟨0x3060, 0x840E_8863_8B02_9055_907A_533B_4E95_4EA5_57DF_80B2_90C1_78EF_4E00_58F1_6EA2_9038⟩,
  ⟨0x3070, 0x7A32_8328_828B_9C2F_5141_5370_54BD_54E1_56E0_59FB_5F15_98F2_6DEB_80E4_852D_0000⟩,
  ⟨0x3120, 0x0000_9662_9670_96A0_97FB_540B_53F3_5B87_70CF_7FBD_8FC2_96E8_536F_9D5C_7ABA_4E11⟩,
  ⟨0x3130, 0x7893_81FC_6E26_5618_5504_6B1D_851A_9C3B_59E5_53A9_6D66_74DC_958F_5642_4E91_904B⟩,
  ⟨0x3140, 0x96F2_834F_990C_53E1_55B6_5B30_5F71_6620_66F3_6804_6C38_6CF3_6D29_745B_76C8_7A4E⟩,
  ⟨0x3150, 0x9834_82F1_885B_8A60_92ED_6DB2_75AB_76CA_99C5_60A6_8B01_8D8A_95B2_698E_53AD_5186⟩,
  ⟨0x3160, 0x5712_5830_5944_5BB4_5EF6_6028_63A9_63F4_6CBF_6F14_708E_7114_7159_71D5_733F_7E01⟩,
  ⟨0x3170, 0x8276_82D1_8597_9060_925B_9D1B_5869_65BC_6C5A_7525_51F9_592E_5965_5F80_5FDC_0000⟩,
  ⟨0x3220, 0x0000_62BC_65FA_6A2A_6B27_6BB4_738B_7FC1_8956_9D2C_9D0E_9EC4_5CA1_6C96_837B_5104⟩,
  ⟨0x3230, 0x5C4B_61B6_81C6_6876_7261_4E59_4FFA_5378_6069_6E29_7A4F_97F3_4E0B_5316_4EEE_4F55⟩,
  ⟨0x3240, 0x4F3D_4FA1_4F73_52A0_53EF_5609_590F_5AC1_5BB6_5BE1_79D1_6687_679C_67B6_6B4C_6CB3⟩,
  ⟨0x3250, 0x706B_73C2_798D_79BE_7A3C_7B87_82B1_82DB_8304_8377_83EF_83D3_8766_8AB2_5629_8CA8⟩,
  ⟨0x3260, 0x8FE6_904E_971E_868A_4FC4_5CE8_6211_7259_753B_81E5_82BD_86FE_8CC0_96C5_9913_99D5⟩,
  ⟨0x3270, 0x4ECB_4F1A_89E3_56DE_584A_58CA_5EFB_5FEB_602A_6094_6062_61D0_6212_62D0_6539_0000⟩,
  ⟨0x3320, 0x0000_9B41_6666_68B0_6D77_7070_754C_7686_7D75_82A5_87F9_958B_968E_8C9D_51F1_52BE⟩,
  ⟨0x3330, 0x5916_54B3_5BB3_5D16_6168_6982_6DAF_788D_84CB_8857_8A72_93A7_9AB8_6D6C_99A8_86D9⟩,
  ⟨0x3340, 0x57A3_67FF_86CE_920E_5283_5687_5404_5ED3_62E1_64B9_683C_6838_6BBB_7372_78BA_7A6B⟩,
  ⟨0x3350, 0x899A_89D2_8D6B_8F03_90ED_95A3_9694_9769_5B66_5CB3_697D_984D_984E_639B_7B20_6A2B⟩,
  ⟨0x3360, 0x6A7F_68B6_9C0D_6F5F_5272_559D_6070_62EC_6D3B_6E07_6ED1_845B_8910_8F44_4E14_9C39⟩,
  ⟨0x3370, 0x53F6_691B_6A3A_9784_682A_515C_7AC3_84B2_91DC_938C_565B_9D28_6822_8305_8431_0000⟩,
  ⟨0x3420, 0x0000_7CA5_5208_82C5_74E6_4E7E_4F83_51A0_5BD2_520A_52D8_52E7_5DFB_559A_582A_59E6⟩,
  ⟨0x3430, 0x5B8C_5B98_5BDB_5E72_5E79_60A3_611F_6163_61BE_63DB_6562_67D1_6853_68FA_6B3E_6B53⟩,
  ⟨0x3440, 0x6C57_6F22_6F97_6F45_74B0_7518_76E3_770B_7AFF_7BA1_7C21_7DE9_7F36_7FF0_809D_8266⟩,
  ⟨0x3450, 0x839E_89B3_8ACC_8CAB_9084_9451_9593_9591_95A2_9665_97D3_9928_8218_4E38_542B_5CB8⟩,
  ⟨0x3460, 0x5DCC_73A9_764C_773C_5CA9_7FEB_8D0B_96C1_9811_9854_9858_4F01_4F0E_5371_559C_5668⟩,
  ⟨0x3470, 0x57FA_5947_5B09_5BC4_5C90_5E0C_5E7E_5FCC_63EE_673A_65D7_65E2_671F_68CB_68C4_0000⟩,
  ⟨0x3520, 0x0000_6A5F_5E30_6BC5_6C17_6C7D_757F_7948_5B63_7A00_7D00_5FBD_898F_8A18_8CB4_8D77⟩,
  ⟨0x3530, 0x8ECC_8F1D_98E2_9A0E_9B3C_4E80_507D_5100_5993_5B9C_622F_6280_64EC_6B3A_72A0_7591⟩,
  ⟨0x3540, 0x7947_7FA9_87FB_8ABC_8B70_63AC_83CA_97A0_5409_5403_55AB_6854_6A58_8A70_7827_6775⟩,
  ⟨0x3550, 0x9ECD_5374_5BA2_811A_8650_9006_4E18_4E45_4EC7_4F11_53CA_5438_5BAE_5F13_6025_6551⟩,
  ⟨0x3560, 0x673D_6C42_6C72_6CE3_7078_7403_7A76_7AAE_7B08_7D1A_7CFE_7D66_65E7_725B_53BB_5C45⟩,
  ⟨0x3570, 0x5DE8_62D2_62E0_6319_6E20_865A_8A31_8DDD_92F8_6F01_79A6_9B5A_4EA8_4EAB_4EAC_0000⟩,
  ⟨0x3620, 0x0000_4F9B_4FA0_50D1_5147_7AF6_5171_51F6_5354_5321_537F_53EB_55AC_5883_5CE1_5F37⟩,
  ⟨0x3630, 0x5F4A_602F_6050_606D_631F_6559_6A4B_6CC1_72C2_72ED_77EF_80F8_8105_8208_854E_90F7⟩,
  ⟨0x3640, 0x93E1_97FF_9957_9A5A_4EF0_51DD_5C2D_6681_696D_5C40_66F2_6975_7389_6850_7C81_50C5⟩,
  ⟨0x3650, 0x52E4_5747_5DFE_9326_65A4_6B23_6B3D_7434_7981_79BD_7B4B_7DCA_82B9_83CC_887F_895F⟩,
  ⟨0x3660, 0x8B39_8FD1_91D1_541F_9280_4E5D_5036_53E5_533A_72D7_7396_77E9_82E6_8EAF_99C6_99C8⟩,
  ⟨0x3670, 0x99D2_5177_611A_865E_55B0_7A7A_5076_5BD3_9047_9685_4E32_6ADB_91E7_5C51_5C48_0000⟩,
  ⟨0x3720, 0x0000_6398_7A9F_6C93_9774_8F61_7AAA_718A_9688_7C82_6817_7E70_6851_936C_52F2_541B⟩,
  ⟨0x3730, 0x85AB_8A13_7FA4_8ECD_90E1_5366_8888_7941_4FC2_50BE_5211_5144_5553_572D_73EA_578B⟩,
  ⟨0x3740, 0x5951_5F62_5F84_6075_6176_6167_61A9_63B2_643A_656C_666F_6842_6E13_7566_7A3D_7CFB⟩,
  ⟨0x3750, 0x7D4C_7D99_7E4B_7F6B_830E_834A_86CD_8A08_8A63_8B66_8EFD_981A_9D8F_82B8_8FCE_9BE8⟩,
  ⟨0x3760, 0x5287_621F_6483_6FC0_9699_6841_5091_6B20_6C7A_6F54_7A74_7D50_8840_8A23_6708_4EF6⟩,
  ⟨0x3770, 0x5039_5026_5065_517C_5238_5263_55A7_570F_5805_5ACC_5EFA_61B2_61F8_62F3_6372_0000⟩,
  ⟨0x3820, 0x0000_691C_6A29_727D_72AC_732E_7814_786F_7D79_770C_80A9_898B_8B19_8CE2_8ED2_9063⟩,
  ⟨0x3830, 0x9375_967A_9855_9A13_9E78_5143_539F_53B3_5E7B_5F26_6E1B_6E90_7384_73FE_7D43_8237⟩,
  ⟨0x3840, 0x8A00_8AFA_9650_4E4E_500B_53E4_547C_56FA_59D1_5B64_5DF1_5EAB_5F27_6238_6545_67AF⟩,
  ⟨0x3850, 0x6E56_72D0_7CCA_88B4_80A1_80E1_83F0_864E_8A87_8DE8_9237_96C7_9867_9F13_4E94_4E92⟩,
  ⟨0x3860, 0x4F0D_5348_5449_543E_5A2F_5F8C_5FA1_609F_68A7_6A8E_745A_7881_8A9E_8AA4_8B77_9190⟩,
  ⟨0x3870, 0x4E5E_9BC9_4EA4_4F7C_4FAF_5019_5016_5149_516C_529F_52B9_52FE_539A_53E3_5411_0000⟩,
  ⟨0x3920, 0x0000_540E_5589_5751_57A2_597D_5B54_5B5D_5B8F_5DE5_5DE7_5DF7_5E78_5E83_5E9A_5EB7⟩,
  ⟨0x3930, 0x5F18_6052_614C_6297_62D8_63A7_653B_6602_6643_66F4_676D_6821_6897_69CB_6C5F_6D2A⟩,
  ⟨0x3940, 0x6D69_6E2F_6E9D_7532_7687_786C_7A3F_7CE0_7D05_7D18_7D5E_7DB1_8015_8003_80AF_80B1⟩,
  ⟨0x3950, 0x8154_818F_822A_8352_884C_8861_8B1B_8CA2_8CFC_90CA_9175_9271_783F_92FC_95A4_964D⟩,
  ⟨0x3960, 0x9805_9999_9AD8_9D3B_525B_52AB_53F7_5408_58D5_62F7_6FE0_8C6A_8F5F_9EB9_514B_523B⟩,
  ⟨0x3970, 0x544A_56FD_7A40_9177_9D60_9ED2_7344_6F09_8170_7511_5FFD_60DA_9AA8_72DB_8FBC_0000⟩,
  ⟨0x3A20, 0x0000_6B64_9803_4ECA_56F0_5764_58BE_5A5A_6068_61C7_660F_6606_6839_68B1_6DF7_75D5⟩,
  ⟨0x3A30, 0x7D3A_826E_9B42_4E9B_4F50_53C9_5506_5D6F_5DE6_5DEE_67FB_6C99_7473_7802_8A50_9396⟩,
  ⟨0x3A40, 0x88DF_5750_5EA7_632B_50B5_50AC_518D_6700_54C9_585E_59BB_5BB0_5F69_624D_63A1_683D⟩,
  ⟨0x3A50, 0x6B73_6E08_707D_91C7_7280_7815_7826_796D_658E_7D30_83DC_88C1_8F09_969B_5264_5728⟩,
  ⟨0x3A60, 0x6750_7F6A_8CA1_51B4_5742_962A_583A_698A_80B4_54B2_5D0E_57FC_7895_9DFA_4F5C_524A⟩,
  ⟨0x3A70, 0x548B_643E_6628_6714_67F5_7A84_7B56_7D22_932F_685C_9BAD_7B39_5319_518A_5237_0000⟩,
  ⟨0x3B20, 0x0000_5BDF_62F6_64AE_64E6_672D_6BBA_85A9_96D1_7690_9BD6_634C_9306_9BAB_76BF_6652⟩,
  ⟨0x3B30, 0x4E09_5098_53C2_5C71_60E8_6492_6563_685F_71E6_73CA_7523_7B97_7E82_8695_8B83_8CDB⟩,
  ⟨0x3B40, 0x9178_9910_65AC_66AB_6B8B_4ED5_4ED4_4F3A_4F7F_523A_53F8_53F2_55E3_56DB_58EB_59CB⟩,
  ⟨0x3B50, 0x59C9_59FF_5B50_5C4D_5E02_5E2B_5FD7_601D_6307_652F_5B5C_65AF_65BD_65E8_679D_6B62⟩,
  ⟨0x3B60, 0x6B7B_6C0F_7345_7949_79C1_7CF8_7D19_7D2B_80A2_8102_81F3_8996_8A5E_8A69_8A66_8A8C⟩,
  ⟨0x3B70, 0x8AEE_8CC7_8CDC_96CC_98FC_6B6F_4E8B_4F3C_4F8D_5150_5B57_5BFA_6148_6301_6642_0000⟩,
  ⟨0x3C20, 0x0000_6B21_6ECB_6CBB_723E_74BD_75D4_78C1_793A_800C_8033_81EA_8494_8F9E_6C50_9E7F⟩,
  ⟨0x3C30, 0x5F0F_8B58_9D2B_7AFA_8EF8_5B8D_96EB_4E03_53F1_57F7_5931_5AC9_5BA4_6089_6E7F_6F06⟩,
  ⟨0x3C40, 0x75BE_8CEA_5B9F_8500_7BE0_5072_67F4_829D_5C61_854A_7E1E_820E_5199_5C04_6368_8D66⟩,
  ⟨0x3C50, 0x659C_716E_793E_7D17_8005_8B1D_8ECA_906E_86C7_90AA_501F_52FA_5C3A_6753_707C_7235⟩,
  ⟨0x3C60, 0x914C_91C8_932B_82E5_5BC2_5F31_60F9_4E3B_53D6_5B88_624B_6731_6B8A_72E9_73E0_7A2E⟩,
  ⟨0x3C70, 0x816B_8DA3_9152_9996_5112_53D7_546A_5BFF_6388_6A39_7DAC_9700_56DA_53CE_5468_0000⟩,
  ⟨0x3D20, 0x0000_5B97_5C31_5DDE_4FEE_6101_62FE_6D32_79C0_79CB_7D42_7E4D_7FD2_81ED_821F_8490⟩,
  ⟨0x3D30, 0x8846_8972_8B90_8E74_8F2F_9031_914B_916C_96C6_919C_4EC0_4F4F_5145_5341_5F93_620E⟩,
  ⟨0x3D40, 0x67D4_6C41_6E0B_7363_7E26_91CD_9283_53D4_5919_5BBF_6DD1_795D_7E2E_7C9B_587E_719F⟩,
  ⟨0x3D50, 0x51FA_8853_8FF0_4FCA_5CFB_6625_77AC_7AE3_821C_99FF_51C6_5FAA_65EC_696F_6B89_6DF3⟩,
  ⟨0x3D60, 0x6E96_6F64_76FE_7D14_5DE1_9075_9187_9806_51E6_521D_6240_6691_66D9_6E1A_5EB6_7DD2⟩,
  ⟨0x3D70, 0x7F72_66F8_85AF_85F7_8AF8_52A9_53D9_5973_5E8F_5F90_6055_92E4_9664_50B7_511F_0000⟩,
  ⟨0x3E20, 0x0000_52DD_5320_5347_53EC_54E8_5546_5531_5617_5968_59BE_5A3C_5BB5_5C06_5C0F_5C11⟩,
  ⟨0x3E30, 0x5C1A_5E84_5E8A_5EE0_5F70_627F_6284_62DB_638C_6377_6607_660C_662D_6676_677E_68A2⟩,
  ⟨0x3E40, 0x6A1F_6A35_6CBC_6D88_6E09_6E58_713C_7126_7167_75C7_7701_785D_7901_7965_79F0_7AE0⟩,
  ⟨0x3E50, 0x7B11_7CA7_7D39_8096_83D6_848B_8549_885D_88F3_8A1F_8A3C_8A54_8A73_8C61_8CDE_91A4⟩,
  ⟨0x3E60, 0x9266_937E_9418_969C_9798_4E0A_4E08_4E1E_4E57_5197_5270_57CE_5834_58CC_5B22_5E38⟩,
  ⟨0x3E70, 0x60C5_64FE_6761_6756_6D44_72B6_7573_7A63_84B8_8B72_91B8_9320_5631_57F4_98FE_0000⟩,
  ⟨0x3F20, 0x0000_62ED_690D_6B96_71ED_7E54_8077_8272_89E6_98DF_8755_8FB1_5C3B_4F38_4FE1_4FB5⟩,
  ⟨0x3F30, 0x5507_5A20_5BDD_5BE9_5FC3_614E_632F_65B0_664B_68EE_699B_6D78_6DF1_7533_75B9_771F⟩,
  ⟨0x3F40, 0x795E_79E6_7D33_81E3_82AF_85AA_89AA_8A3A_8EAB_8F9B_9032_91DD_9707_4EBA_4EC1_5203⟩,
  ⟨0x3F50, 0x5875_58EC_5C0B_751A_5C3D_814E_8A0A_8FC5_9663_976D_7B25_8ACF_9808_9162_56F3_53A8⟩,
  ⟨0x3F60, 0x9017_5439_5782_5E25_63A8_6C34_708A_7761_7C8B_7FE0_8870_9042_9154_9310_9318_968F⟩,
  ⟨0x3F70, 0x745E_9AC4_5D07_5D69_6570_67A2_8DA8_96DB_636E_6749_6919_83C5_9817_96C0_88FE_0000⟩,
  ⟨0x4020, 0x0000_6F84_647A_5BF8_4E16_702C_755D_662F_51C4_5236_52E2_59D3_5F81_6027_6210_653F⟩,
  ⟨0x4030, 0x6574_661F_6674_68F2_6816_6B63_6E05_7272_751F_76DB_7CBE_8056_58F0_88FD_897F_8AA0⟩,
  ⟨0x4040, 0x8A93_8ACB_901D_9192_9752_9759_6589_7A0E_8106_96BB_5E2D_60DC_621A_65A5_6614_6790⟩,
  ⟨0x4050, 0x77F3_7A4D_7C4D_7E3E_810A_8CAC_8D64_8DE1_8E5F_78A9_5207_62D9_63A5_6442_6298_8A2D⟩,
  ⟨0x4060, 0x7A83_7BC0_8AAC_96EA_7D76_820C_8749_4ED9_5148_5343_5360_5BA3_5C02_5C16_5DDD_6226⟩,
  ⟨0x4070, 0x6247_64B0_6813_6834_6CC9_6D45_6D17_67D3_6F5C_714E_717D_65CB_7A7F_7BAD_7DDA_0000⟩,
  ⟨0x4120, 0x0000_7E4A_7FA8_817A_821B_8239_85A6_8A6E_8CCE_8DF5_9078_9077_92AD_9291_9583_9BAE⟩,
  ⟨0x4130, 0x524D_5584_6F38_7136_5168_7985_7E55_81B3_7CCE_564C_5851_5CA8_63AA_66FE_66FD_695A⟩,
  ⟨0x4140, 0x72D9_758F_758E_790E_7956_79DF_7C97_7D20_7D44_8607_8A34_963B_9061_9F20_50E7_5275⟩,
  ⟨0x4150, 0x53CC_53E2_5009_55AA_58EE_594F_723D_5B8B_5C64_531D_60E3_60F3_635C_6383_633F_63BB⟩,
  ⟨0x4160, 0x64CD_65E9_66F9_5DE3_69CD_69FD_6F15_71E5_4E89_75E9_76F8_7A93_7CDF_7DCF_7D9C_8061⟩,
  ⟨0x4170, 0x8349_8358_846C_84BC_85FB_88C5_8D70_9001_906D_9397_971C_9A12_50CF_5897_618E_0000⟩,
  ⟨0x4220, 0x0000_81D3_8535_8D08_9020_4FC3_5074_5247_5373_606F_6349_675F_6E2C_8DB3_901F_4FD7⟩,
  ⟨0x4230, 0x5C5E_8CCA_65CF_7D9A_5352_8896_5176_63C3_5B58_5B6B_5C0A_640D_6751_905C_4ED6_591A⟩,
  ⟨0x4240, 0x592A_6C70_8A51_553E_5815_59A5_60F0_6253_67C1_8235_6955_9640_99C4_9A28_4F53_5806⟩,
  ⟨0x4250, 0x5BFE_8010_5CB1_5E2F_5F85_6020_614B_6234_66FF_6CF0_6EDE_80CE_817F_82D4_888B_8CB8⟩,
  ⟨0x4260, 0x9000_902E_968A_9EDB_9BDB_4EE3_53F0_5927_7B2C_918D_984C_9DF9_6EDD_7027_5353_5544⟩,
  ⟨0x4270, 0x5B85_6258_629E_62D3_6CA2_6FEF_7422_8A17_9438_6FC1_8AFE_8338_51E7_86F8_53EA_0000⟩,
  ⟨0x4320, 0x0000_53E9_4F46_9054_8FB0_596A_8131_5DFD_7AEA_8FBF_68DA_8C37_72F8_9C48_6A3D_8AB0⟩,
  ⟨0x4330, 0x4E39_5358_5606_5766_62C5_63A2_65E6_6B4E_6DE1_6E5B_70AD_77ED_7AEF_7BAA_7DBB_803D⟩,
  ⟨0x4340, 0x80C6_86CB_8A95_935B_56E3_58C7_5F3E_65AD_6696_6A80_6BB5_7537_8AC7_5024_77E5_5730⟩,
  ⟨0x4350, 0x5F1B_6065_667A_6C60_75F4_7A1A_7F6E_81F4_8718_9045_99B3_7BC9_755C_7AF9_7B51_84C4⟩,
  ⟨0x4360, 0x9010_79E9_7A92_8336_5AE1_7740_4E2D_4EF2_5B99_5FE0_62BD_663C_67F1_6CE8_866B_8877⟩,
  ⟨0x4370, 0x8A3B_914E_92F3_99D0_6A17_7026_732A_82E7_8457_8CAF_4E01_5146_51CB_558B_5BF5_0000⟩,
  ⟨0x4420, 0x0000_5E16_5E33_5E81_5F14_5F35_5F6B_5FB4_61F2_6311_66A2_671D_6F6E_7252_753A_773A⟩,
  ⟨0x4430, 0x8074_8139_8178_8776_8ABF_8ADC_8D85_8DF3_929A_9577_9802_9CE5_52C5_6357_76F4_6715⟩,
  ⟨0x4440, 0x6C88_73CD_8CC3_93AE_9673_6D25_589C_690E_69CC_8FFD_939A_75DB_901A_585A_6802_63B4⟩,
  ⟨0x4450, 0x69FB_4F43_6F2C_67D8_8FBB_8526_7DB4_9354_693F_6F70_576A_58F7_5B2C_7D2C_722A_540A⟩,
  ⟨0x4460, 0x91E3_9DB4_4EAD_4F4E_505C_5075_5243_8C9E_5448_5824_5B9A_5E1D_5E95_5EAD_5EF7_5F1F⟩,
  ⟨0x4470, 0x608C_62B5_633A_63D0_68AF_6C40_7887_798E_7A0B_7DE0_8247_8A02_8AE6_8E44_9013_0000⟩,
  ⟨0x4520, 0x0000_90B8_912D_91D8_9F0E_6CE5_6458_64E2_6575_6EF4_7684_7B1B_9069_93D1_6EBA_54F2⟩,
  ⟨0x4530, 0x5FB9_64A4_8F4D_8FED_9244_5178_586B_5929_5C55_5E97_6DFB_7E8F_751C_8CBC_8EE2_985B⟩,
  ⟨0x4540, 0x70B9_4F1D_6BBF_6FB1_7530_96FB_514E_5410_5835_5857_59AC_5C60_5F92_6597_675C_6E21⟩,
  ⟨0x4550, 0x767B_83DF_8CED_9014_90FD_934D_7825_783A_52AA_5EA6_571F_5974_6012_5012_515A_51AC⟩,
  ⟨0x4560, 0x51CD_5200_5510_5854_5858_5957_5B95_5CF6_5D8B_60BC_6295_642D_6771_6843_68BC_68DF⟩,
  ⟨0x4570, 0x76D7_6DD8_6E6F_6D9B_706F_71C8_5F53_75D8_7977_7B49_7B54_7B52_7CD6_7D71_5230_0000⟩,
  ⟨0x4620, 0x0000_8463_8569_85E4_8A0E_8B04_8C46_8E0F_9003_900F_9419_9676_982D_9A30_95D8_50CD⟩,
  ⟨0x4630, 0x52D5_540C_5802_5C0E_61A7_649E_6D1E_77B3_7AE5_80F4_8404_9053_9285_5CE0_9D07_533F⟩,
  ⟨0x4640, 0x5F97_5FB3_6D9C_7279_7763_79BF_7BE4_6BD2_72EC_8AAD_6803_6A61_51F8_7A81_6934_5C4A⟩,
  ⟨0x4650, 0x9CF6_82EB_5BC5_9149_701E_5678_5C6F_60C7_6566_6C8C_8C5A_9041_9813_5451_66C7_920D⟩,
  ⟨0x4660, 0x5948_90A3_5185_4E4D_51EA_8599_8B0E_7058_637A_934B_6962_99B4_7E04_7577_5357_6960⟩,
  ⟨0x4670, 0x8EDF_96E3_6C5D_4E8C_5C3C_5F10_8FE9_5302_8CD1_8089_8679_5EFF_65E5_4E73_5165_0000⟩,
  ⟨0x4720, 0x0000_5982_5C3F_97EE_4EFB_598A_5FCD_8A8D_6FE1_79B0_7962_5BE7_8471_732B_71B1_5E74⟩,
  ⟨0x4730, 0x5FF5_637B_649A_71C3_7C98_4E43_5EFC_4E4B_57DC_56A2_60A9_6FC3_7D0D_80FD_8133_81BF⟩,
  ⟨0x4740, 0x8FB2_8997_86A4_5DF4_628A_64AD_8987_6777_6CE2_6D3E_7436_7834_5A46_7F75_82AD_99AC⟩,
  ⟨0x4750, 0x4FF3_5EC3_62DD_6392_6557_676F_76C3_724C_80CC_80BA_8F29_914D_500D_57F9_5A92_6885⟩,
  ⟨0x4760, 0x6973_7164_72FD_8CB7_58F2_8CE0_966A_9019_877F_79E4_77E7_8429_4F2F_5265_535A_62CD⟩,
  ⟨0x4770, 0x67CF_6CCA_767D_7B94_7C95_8236_8584_8FEB_66DD_6F20_7206_7E1B_83AB_99C1_9EA6_0000⟩,
  ⟨0x4820, 0x0000_51FD_7BB1_7872_7BB8_8087_7B48_6AE8_5E61_808C_7551_7560_516B_9262_6E8C_767A⟩,
  ⟨0x4830, 0x9197_9AEA_4F10_7F70_629C_7B4F_95A5_9CE9_567A_5859_86E4_96BC_4F34_5224_534A_53CD⟩,
  ⟨0x4840, 0x53DB_5E06_642C_6591_677F_6C3E_6C4E_7248_72AF_73ED_7554_7E41_822C_85E9_8CA9_7BC4⟩,
  ⟨0x4850, 0x91C6_7169_9812_98EF_633D_6669_756A_76E4_78D0_8543_86EE_532A_5351_5426_5983_5E87⟩,
  ⟨0x4860, 0x5F7C_60B2_6249_6279_62AB_6590_6BD4_6CCC_75B2_76AE_7891_79D8_7DCB_7F77_80A5_88AB⟩,
  ⟨0x4870, 0x8AB9_8CBB_907F_975E_98DB_6A0B_7C38_5099_5C3E_5FAE_6787_6BD8_7435_7709_7F8E_0000⟩,
  ⟨0x4920, 0x0000_9F3B_67CA_7A17_5339_758B_9AED_5F66_819D_83F1_8098_5F3C_5FC5_7562_7B46_903C⟩,
  ⟨0x4930, 0x6867_59EB_5A9B_7D10_767E_8B2C_4FF5_5F6A_6A19_6C37_6F02_74E2_7968_8868_8A55_8C79⟩,
  ⟨0x4940, 0x5EDF_63CF_75C5_79D2_82D7_9328_92F2_849C_86ED_9C2D_54C1_5F6C_658C_6D5C_7015_8CA7⟩,
  ⟨0x4950, 0x8CD3_983B_654F_74F6_4E0D_4ED8_57E0_592B_5A66_5BCC_51A8_5E03_5E9C_6016_6276_6577⟩,
  ⟨0x4960, 0x65A7_666E_6D6E_7236_7B26_8150_819A_8299_8B5C_8CA0_8CE6_8D74_961C_9644_4FAE_64AB⟩,
  ⟨0x4970, 0x6B66_821E_8461_856A_90E8_5C01_6953_98A8_847A_8557_4F0F_526F_5FA9_5E45_670D_0000⟩,
  ⟨0x4A20, 0x0000_798F_8179_8907_8986_6DF5_5F17_6255_6CB8_4ECF_7269_9B92_5206_543B_5674_58B3⟩,
  ⟨0x4A30, 0x61A4_626E_711A_596E_7C89_7CDE_7D1B_96F0_6587_805E_4E19_4F75_5175_5840_5E63_5E73⟩,
  ⟨0x4A40, 0x5F0A_67C4_4E26_853D_9589_965B_7C73_9801_50FB_58C1_7656_78A7_5225_77A5_8511_7B86⟩,
  ⟨0x4A50, 0x504F_5909_7247_7BC7_7DE8_8FBA_8FD4_904D_4FBF_52C9_5A29_5F01_97AD_4FDD_8217_92EA⟩,
  ⟨0x4A60, 0x5703_6355_6B69_752B_88DC_8F14_7A42_52DF_5893_6155_620A_66AE_6BCD_7C3F_83E9_5023⟩,
  ⟨0x4A70, 0x4FF8_5305_5446_5831_5949_5B9D_5CF0_5CEF_5D29_5E96_62B1_6367_653E_65B9_670B_0000⟩,
  ⟨0x4B20, 0x0000_6CD5_6CE1_70F9_7832_7E2B_80DE_82B3_840C_84EC_8702_8912_8A2A_8C4A_90A6_92D2⟩,
  ⟨0x4B30, 0x98FD_9CF3_9D6C_4E4F_4EA1_508D_5256_574A_59A8_5E3D_5FD8_5FD9_623F_66B4_671B_67D0⟩,
  ⟨0x4B40, 0x68D2_5192_7D21_80AA_81A8_8B00_8C8C_8CBF_927E_9632_5420_982C_5317_50D5_535C_58A8⟩,
  ⟨0x4B50, 0x64B2_6734_7267_7766_7A46_91E6_52C3_6CA1_6B86_5800_5E4C_5954_672C_7FFB_51E1_76C6⟩,
  ⟨0x4B60, 0x6469_78E8_9B54_9EBB_57CB_59B9_6627_679A_6BCE_54E9_69D9_5E55_819C_6795_9BAA_67FE⟩,
  ⟨0x4B70, 0x9C52_685D_4EA6_4FE3_53C8_62B9_672B_6CAB_8FC4_4FAD_7E6D_9EBF_4E07_6162_6E80_0000⟩,
  ⟨0x4C20, 0x0000_6F2B_8513_5473_672A_9B45_5DF3_7B95_5CAC_5BC6_871C_6E4A_84D1_7A14_8108_5999⟩,
  ⟨0x4C30, 0x7C8D_6C11_7720_52D9_5922_7121_725F_77DB_9727_9D61_690B_5A7F_5A18_51A5_540D_547D⟩,
  ⟨0x4C40, 0x660E_76DF_8FF7_9298_9CF4_59EA_725D_6EC5_514D_68C9_7DBF_7DEC_9762_9EBA_6478_6A21⟩,
  ⟨0x4C50, 0x8302_5984_5B5F_6BDB_731B_76F2_7DB2_8017_8499_5132_6728_9ED9_76EE_6762_52FF_9905⟩,
  ⟨0x4C60, 0x5C24_623B_7C7E_8CB0_554F_60B6_7D0B_9580_5301_4E5F_51B6_591C_723A_8036_91CE_5F25⟩,
  ⟨0x4C70, 0x77E2_5384_5F79_7D04_85AC_8A33_8E8D_9756_67F3_85AE_9453_6109_6108_6CB9_7652_0000⟩,
  ⟨0x4D20, 0x0000_8AED_8F38_552F_4F51_512A_52C7_53CB_5BA5_5E7D_60A0_6182_63D6_6709_67DA_6E67⟩,
  ⟨0x4D30, 0x6D8C_7336_7337_7531_7950_88D5_8A98_904A_9091_90F5_96C4_878D_5915_4E88_4F59_4E0E⟩,
  ⟨0x4D40, 0x8A89_8F3F_9810_50AD_5E7C_5996_5BB9_5EB8_63DA_63FA_64C1_66DC_694A_69D8_6D0B_6EB6⟩,
  ⟨0x4D50, 0x7194_7528_7AAF_7F8A_8000_8449_84C9_8981_8B21_8E0A_9065_967D_990A_617E_6291_6B32⟩,
  ⟨0x4D60, 0x6C83_6D74_7FCC_7FFC_6DC0_7F85_87BA_88F8_6765_83B1_983C_96F7_6D1B_7D61_843D_916A⟩,
  ⟨0x4D70, 0x4E71_5375_5D50_6B04_6FEB_85CD_862D_89A7_5229_540F_5C65_674E_68A8_7406_7483_0000⟩,
  ⟨0x4E20, 0x0000_75E2_88CF_88E1_91CC_96E2_9678_5F8B_7387_7ACB_844E_63A0_7565_5289_6D41_6E9C⟩,
  ⟨0x4E30, 0x7409_7559_786B_7C92_9686_7ADC_9F8D_4FB6_616E_65C5_865C_4E86_4EAE_50DA_4E21_51CC⟩,
  ⟨0x4E40, 0x5BEE_6599_6881_6DBC_731F_7642_77AD_7A1C_7CE7_826F_8AD2_907C_91CF_9675_9818_529B⟩,
  ⟨0x4E50, 0x7DD1_502B_5398_6797_6DCB_71D0_7433_81E8_8F2A_96A3_9C57_9E9F_7460_5841_6D99_7D2F⟩,
  ⟨0x4E60, 0x985E_4EE4_4F36_4F8B_51B7_52B1_5DBA_601C_73B2_793C_82D3_9234_96B7_96F6_970A_9E97⟩,
  ⟨0x4E70, 0x9F62_66A6_6B74_5217_52A3_70C8_88C2_5EC9_604B_6190_6F23_7149_7C3E_7DF4_806F_0000⟩,
  ⟨0x4F20, 0x0000_84EE_9023_932C_5442_9B6F_6AD3_7089_8CC2_8DEF_9732_52B4_5A41_5ECA_5F04_6717⟩,
  ⟨0x4F30, 0x697C_6994_6D6A_6F0F_7262_72FC_7BED_8001_807E_874B_90CE_516D_9E93_7984_808B_9332⟩,
  ⟨0x4F40, 0x8AD6_502D_548C_8A71_6B6A_8CC4_8107_60D1_67A0_9DF2_4E99_4E98_9C10_8A6B_85C1_8568⟩,
  ⟨0x4F50, 0x6900_6E7E_7897_8155_0000_0000_0000_0000_0000_0000_0000_0000_0000_0000_0000_0000⟩,
  ⟨0x5020, 0x0000_5F0C_4E10_4E15_4E2A_4E31_4E36_4E3C_4E3F_4E42_4E56_4E58_4E82_4E85_8C6B_4E8A⟩,
  ⟨0x5030, 0x8212_5F0D_4E8E_4E9E_4E9F_4EA0_4EA2_4EB0_4EB3_4EB6_4ECE_4ECD_4EC4_4EC6_4EC2_4ED7⟩,
  ⟨0x5040, 0x4EDE_4EED_4EDF_4EF7_4F09_4F5A_4F30_4F5B_4F5D_4F57_4F47_4F76_4F88_4F8F_4F98_4F7B⟩,
  ⟨0x5050, 0x4F69_4F70_4F91_4F6F_4F86_4F96_5118_4FD4_4FDF_4FCE_4FD8_4FDB_4FD1_4FDA_4FD0_4FE4⟩,
  ⟨0x5060, 0x4FE5_501A_5028_5014_502A_5025_5005_4F1C_4FF6_5021_5029_502C_4FFE_4FEF_5011_5006⟩,
  ⟨0x5070, 0x5043_5047_6703_5055_5050_5048_505A_5056_506C_5078_5080_509A_5085_50B4_50B2_0000⟩,
  ⟨0x5120, 0x0000_50C9_50CA_50B3_50C2_50D6_50DE_50E5_50ED_50E3_50EE_50F9_50F5_5109_5101_5102⟩,
  ⟨0x5130, 0x5116_5115_5114_511A_5121_513A_5137_513C_513B_513F_5140_5152_514C_5154_5162_7AF8⟩,
  ⟨0x5140, 0x5169_516A_516E_5180_5182_56D8_518C_5189_518F_5191_5193_5195_5196_51A4_51A6_51A2⟩,
  ⟨0x5150, 0x51A9_51AA_51AB_51B3_51B1_51B2_51B0_51B5_51BD_51C5_51C9_51DB_51E0_8655_51E9_51ED⟩,
  ⟨0x5160, 0x51F0_51F5_51FE_5204_520B_5214_520E_5227_522A_522E_5233_5239_524F_5244_524B_524C⟩,
  ⟨0x5170, 0x525E_5254_526A_5274_5269_5273_527F_527D_528D_5294_5292_5271_5288_5291_8FA8_0000⟩,
  ⟨0x5220, 0x0000_8FA7_52AC_52AD_52BC_52B5_52C1_52CD_52D7_52DE_52E3_52E6_98ED_52E0_52F3_52F5⟩,
  ⟨0x5230, 0x52F8_52F9_5306_5308_7538_530D_5310_530F_5315_531A_5323_532F_5331_5333_5338_5340⟩,
  ⟨0x5240, 0x5346_5345_4E17_5349_534D_51D6_535E_5369_536E_5918_537B_5377_5382_5396_53A0_53A6⟩,
  ⟨0x5250, 0x53A5_53AE_53B0_53B6_53C3_7C12_96D9_53DF_66FC_71EE_53EE_53E8_53ED_53FA_5401_543D⟩,
  ⟨0x5260, 0x5440_542C_542D_543C_542E_5436_5429_541D_544E_548F_5475_548E_545F_5471_5477_5470⟩,
  ⟨0x5270, 0x5492_547B_5480_5476_5484_5490_5486_54C7_54A2_54B8_54A5_54AC_54C4_54C8_54A8_0000⟩,
  ⟨0x5320, 0x0000_54AB_54C2_54A4_54BE_54BC_54D8_54E5_54E6_550F_5514_54FD_54EE_54ED_54FA_54E2⟩,
  ⟨0x5330, 0x5539_5540_5563_554C_552E_555C_5545_5556_5557_5538_5533_555D_5599_5580_54AF_558A⟩,
  ⟨0x5340, 0x559F_557B_557E_5598_559E_55AE_557C_5583_55A9_5587_55A8_55DA_55C5_55DF_55C4_55DC⟩,
  ⟨0x5350, 0x55E4_55D4_5614_55F7_5616_55FE_55FD_561B_55F9_564E_5650_71DF_5634_5636_5632_5638⟩,
  ⟨0x5360, 0x566B_5664_562F_566C_566A_5686_5680_568A_56A0_5694_568F_56A5_56AE_56B6_56B4_56C2⟩,
  ⟨0x5370, 0x56BC_56C1_56C3_56C0_56C8_56CE_56D1_56D3_56D7_56EE_56F9_5700_56FF_5704_5709_0000⟩,
  ⟨0x5420, 0x0000_5708_570B_570D_5713_5718_5716_55C7_571C_5726_5737_5738_574E_573B_5740_574F⟩,
  ⟨0x5430, 0x5769_57C0_5788_5761_577F_5789_5793_57A0_57B3_57A4_57AA_57B0_57C3_57C6_57D4_57D2⟩,
  ⟨0x5440, 0x57D3_580A_57D6_57E3_580B_5819_581D_5872_5821_5862_584B_5870_6BC0_5852_583D_5879⟩,
  ⟨0x5450, 0x5885_58B9_589F_58AB_58BA_58DE_58BB_58B8_58AE_58C5_58D3_58D1_58D7_58D9_58D8_58E5⟩,
  ⟨0x5460, 0x58DC_58E4_58DF_58EF_58FA_58F9_58FB_58FC_58FD_5902_590A_5910_591B_68A6_5925_592C⟩,
  ⟨0x5470, 0x592D_5932_5938_593E_7AD2_5955_5950_594E_595A_5958_5962_5960_5967_596C_5969_0000⟩,
  ⟨0x5520, 0x0000_5978_5981_599D_4F5E_4FAB_59A3_59B2_59C6_59E8_59DC_598D_59D9_59DA_5A25_5A1F⟩,
  ⟨0x5530, 0x5A11_5A1C_5A09_5A1A_5A40_5A6C_5A49_5A35_5A36_5A62_5A6A_5A9A_5ABC_5ABE_5ACB_5AC2⟩,
  ⟨0x5540, 0x5ABD_5AE3_5AD7_5AE6_5AE9_5AD6_5AFA_5AFB_5B0C_5B0B_5B16_5B32_5AD0_5B2A_5B36_5B3E⟩,
  ⟨0x5550, 0x5B43_5B45_5B40_5B51_5B55_5B5A_5B5B_5B65_5B69_5B70_5B73_5B75_5B78_6588_5B7A_5B80⟩,
  ⟨0x5560, 0x5B83_5BA6_5BB8_5BC3_5BC7_5BC9_5BD4_5BD0_5BE4_5BE6_5BE2_5BDE_5BE5_5BEB_5BF0_5BF6⟩,
  ⟨0x5570, 0x5BF3_5C05_5C07_5C08_5C0D_5C13_5C20_5C22_5C28_5C38_5C39_5C41_5C46_5C4E_5C53_0000⟩,
  ⟨0x5620, 0x0000_5C50_5C4F_5B71_5C6C_5C6E_4E62_5C76_5C79_5C8C_5C91_5C94_599B_5CAB_5CBB_5CB6⟩,
  ⟨0x5630, 0x5CBC_5CB7_5CC5_5CBE_5CC7_5CD9_5CE9_5CFD_5CFA_5CED_5D8C_5CEA_5D0B_5D15_5D17_5D5C⟩,
  ⟨0x5640, 0x5D1F_5D1B_5D11_5D14_5D22_5D1A_5D19_5D18_5D4C_5D52_5D4E_5D4B_5D6C_5D73_5D76_5D87⟩,
  ⟨0x5650, 0x5D84_5D82_5DA2_5D9D_5DAC_5DAE_5DBD_5D90_5DB7_5DBC_5DC9_5DCD_5DD3_5DD2_5DD6_5DDB⟩,
  ⟨0x5660, 0x5DEB_5DF2_5DF5_5E0B_5E1A_5E19_5E11_5E1B_5E36_5E37_5E44_5E43_5E40_5E4E_5E57_5E54⟩,
  ⟨0x5670, 0x5E5F_5E62_5E64_5E47_5E75_5E76_5E7A_9EBC_5E7F_5EA0_5EC1_5EC2_5EC8_5ED0_5ECF_0000⟩,
  ⟨0x5720, 0x0000_5ED6_5EE3_5EDD_5EDA_5EDB_5EE2_5EE1_5EE8_5EE9_5EEC_5EF1_5EF3_5EF0_5EF4_5EF8⟩,
  ⟨0x5730, 0x5EFE_5F03_5F09_5F5D_5F5C_5F0B_5F11_5F16_5F29_5F2D_5F38_5F41_5F48_5F4C_5F4E_5F2F⟩,
  ⟨0x5740, 0x5F51_5F56_5F57_5F59_5F61_5F6D_5F73_5F77_5F83_5F82_5F7F_5F8A_5F88_5F91_5F87_5F9E⟩,
  ⟨0x5750, 0x5F99_5F98_5FA0_5FA8_5FAD_5FBC_5FD6_5FFB_5FE4_5FF8_5FF1_5FDD_60B3_5FFF_6021_6060⟩,
  ⟨0x5760, 0x6019_6010_6029_600E_6031_601B_6015_602B_6026_600F_603A_605A_6041_606A_6077_605F⟩,
  ⟨0x5770, 0x604A_6046_604D_6063_6043_6064_6042_606C_606B_6059_6081_608D_60E7_6083_609A_0000⟩,
  ⟨0x5820, 0x0000_6084_609B_6096_6097_6092_60A7_608B_60E1_60B8_60E0_60D3_60B4_5FF0_60BD_60C6⟩,
  ⟨0x5830, 0x60B5_60D8_614D_6115_6106_60F6_60F7_6100_60F4_60FA_6103_6121_60FB_60F1_610D_610E⟩,
  ⟨0x5840, 0x6147_613E_6128_6127_614A_613F_613C_612C_6134_613D_6142_6144_6173_6177_6158_6159⟩,
  ⟨0x5850, 0x615A_616B_6174_616F_6165_6171_615F_615D_6153_6175_6199_6196_6187_61AC_6194_619A⟩,
  ⟨0x5860, 0x618A_6191_61AB_61AE_61CC_61CA_61C9_61F7_61C8_61C3_61C6_61BA_61CB_7F79_61CD_61E6⟩,
  ⟨0x5870, 0x61E3_61F6_61FA_61F4_61FF_61FD_61FC_61FE_6200_6208_6209_620D_620C_6214_621B_0000⟩,
  ⟨0x5920, 0x0000_621E_6221_622A_622E_6230_6232_6233_6241_624E_625E_6263_625B_6260_6268_627C⟩,
  ⟨0x5930, 0x6282_6289_627E_6292_6293_6296_62D4_6283_6294_62D7_62D1_62BB_62CF_62FF_62C6_64D4⟩,
  ⟨0x5940, 0x62C8_62DC_62CC_62CA_62C2_62C7_629B_62C9_630C_62EE_62F1_6327_6302_6308_62EF_62F5⟩,
  ⟨0x5950, 0x6350_633E_634D_641C_634F_6396_638E_6380_63AB_6376_63A3_638F_6389_639F_63B5_636B⟩,
  ⟨0x5960, 0x6369_63BE_63E9_63C0_63C6_63E3_63C9_63D2_63F6_63C4_6416_6434_6406_6413_6426_6436⟩,
  ⟨0x5970, 0x651D_6417_6428_640F_6467_646F_6476_644E_652A_6495_6493_64A5_64A9_6488_64BC_0000⟩,
  ⟨0x5A20, 0x0000_64DA_64D2_64C5_64C7_64BB_64D8_64C2_64F1_64E7_8209_64E0_64E1_62AC_64E3_64EF⟩,
  ⟨0x5A30, 0x652C_64F6_64F4_64F2_64FA_6500_64FD_6518_651C_6505_6524_6523_652B_6534_6535_6537⟩,
  ⟨0x5A40, 0x6536_6538_754B_6548_6556_6555_654D_6558_655E_655D_6572_6578_6582_6583_8B8A_659B⟩,
  ⟨0x5A50, 0x659F_65AB_65B7_65C3_65C6_65C1_65C4_65CC_65D2_65DB_65D9_65E0_65E1_65F1_6772_660A⟩,
  ⟨0x5A60, 0x6603_65FB_6773_6635_6636_6634_661C_664F_6644_6649_6641_665E_665D_6664_6667_6668⟩,
  ⟨0x5A70, 0x665F_6662_6670_6683_6688_668E_6689_6684_6698_669D_66C1_66B9_66C9_66BE_66BC_0000⟩,
  ⟨0x5B20, 0x0000_66C4_66B8_66D6_66DA_66E0_663F_66E6_66E9_66F0_66F5_66F7_670F_6716_671E_6726⟩,
  ⟨0x5B30, 0x6727_9738_672E_673F_6736_6741_6738_6737_6746_675E_6760_6759_6763_6764_6789_6770⟩,
  ⟨0x5B40, 0x67A9_677C_676A_678C_678B_67A6_67A1_6785_67B7_67EF_67B4_67EC_67B3_67E9_67B8_67E4⟩,
  ⟨0x5B50, 0x67DE_67DD_67E2_67EE_67B9_67CE_67C6_67E7_6A9C_681E_6846_6829_6840_684D_6832_684E⟩,
  ⟨0x5B60, 0x68B3_682B_6859_6863_6877_687F_689F_688F_68AD_6894_689D_689B_6883_6AAE_68B9_6874⟩,
  ⟨0x5B70, 0x68B5_68A0_68BA_690F_688D_687E_6901_68CA_6908_68D8_6922_6926_68E1_690C_68CD_0000⟩,
  ⟨0x5C20, 0x0000_68D4_68E7_68D5_6936_6912_6904_68D7_68E3_6925_68F9_68E0_68EF_6928_692A_691A⟩,
  ⟨0x5C30, 0x6923_6921_68C6_6979_6977_695C_6978_696B_6954_697E_696E_6939_6974_693D_6959_6930⟩,
  ⟨0x5C40, 0x6961_695E_695D_6981_696A_69B2_69AE_69D0_69BF_69C1_69D3_69BE_69CE_5BE8_69CA_69DD⟩,
  ⟨0x5C50, 0x69BB_69C3_69A7_6A2E_6991_69A0_699C_6995_69B4_69DE_69E8_6A02_6A1B_69FF_6B0A_69F9⟩,
  ⟨0x5C60, 0x69F2_69E7_6A05_69B1_6A1E_69ED_6A14_69EB_6A0A_6A12_6AC1_6A23_6A13_6A44_6A0C_6A72⟩,
  ⟨0x5C70, 0x6A36_6A78_6A47_6A62_6A59_6A66_6A48_6A38_6A22_6A90_6A8D_6AA0_6A84_6AA2_6AA3_0000⟩,
  ⟨0x5D20, 0x0000_6A97_8617_6ABB_6AC3_6AC2_6AB8_6AB3_6AAC_6ADE_6AD1_6ADF_6AAA_6ADA_6AEA_6AFB⟩,
  ⟨0x5D30, 0x6B05_8616_6AFA_6B12_6B16_9B31_6B1F_6B38_6B37_76DC_6B39_98EE_6B47_6B43_6B49_6B50⟩,
  ⟨0x5D40, 0x6B59_6B54_6B5B_6B5F_6B61_6B78_6B79_6B7F_6B80_6B84_6B83_6B8D_6B98_6B95_6B9E_6BA4⟩,
  ⟨0x5D50, 0x6BAA_6BAB_6BAF_6BB2_6BB1_6BB3_6BB7_6BBC_6BC6_6BCB_6BD3_6BDF_6BEC_6BEB_6BF3_6BEF⟩,
  ⟨0x5D60, 0x9EBE_6C08_6C13_6C14_6C1B_6C24_6C23_6C5E_6C55_6C62_6C6A_6C82_6C8D_6C9A_6C81_6C9B⟩,
  ⟨0x5D70, 0x6C7E_6C68_6C73_6C92_6C90_6CC4_6CF1_6CD3_6CBD_6CD7_6CC5_6CDD_6CAE_6CB1_6CBE_0000⟩,
  ⟨0x5E20, 0x0000_6CBA_6CDB_6CEF_6CD9_6CEA_6D1F_884D_6D36_6D2B_6D3D_6D38_6D19_6D35_6D33_6D12⟩,
  ⟨0x5E30, 0x6D0C_6D63_6D93_6D64_6D5A_6D79_6D59_6D8E_6D95_6FE4_6D85_6DF9_6E15_6E0A_6DB5_6DC7⟩,
  ⟨0x5E40, 0x6DE6_6DB8_6DC6_6DEC_6DDE_6DCC_6DE8_6DD2_6DC5_6DFA_6DD9_6DE4_6DD5_6DEA_6DEE_6E2D⟩,
  ⟨0x5E50, 0x6E6E_6E2E_6E19_6E72_6E5F_6E3E_6E23_6E6B_6E2B_6E76_6E4D_6E1F_6E43_6E3A_6E4E_6E24⟩,
  ⟨0x5E60, 0x6EFF_6E1D_6E38_6E82_6EAA_6E98_6EC9_6EB7_6ED3_6EBD_6EAF_6EC4_6EB2_6ED4_6ED5_6E8F⟩,
  ⟨0x5E70, 0x6EA5_6EC2_6E9F_6F41_6F11_704C_6EEC_6EF8_6EFE_6F3F_6EF2_6F31_6EEF_6F32_6ECC_0000⟩,
  ⟨0x5F20, 0x0000_6F3E_6F13_6EF7_6F86_6F7A_6F78_6F81_6F80_6F6F_6F5B_6FF3_6F6D_6F82_6F7C_6F58⟩,
  ⟨0x5F30, 0x6F8E_6F91_6FC2_6F66_6FB3_6FA3_6FA1_6FA4_6FB9_6FC6_6FAA_6FDF_6FD5_6FEC_6FD4_6FD8⟩,
  ⟨0x5F40, 0x6FF1_6FEE_6FDB_7009_700B_6FFA_7011_7001_700F_6FFE_701B_701A_6F74_701D_7018_701F⟩,
  ⟨0x5F50, 0x7030_703E_7032_7051_7063_7099_7092_70AF_70F1_70AC_70B8_70B3_70AE_70DF_70CB_70DD⟩,
  ⟨0x5F60, 0x70D9_7109_70FD_711C_7119_7165_7155_7188_7166_7162_714C_7156_716C_718F_71FB_7184⟩,
  ⟨0x5F70, 0x7195_71A8_71AC_71D7_71B9_71BE_71D2_71C9_71D4_71CE_71E0_71EC_71E7_71F5_71FC_0000⟩,
  ⟨0x6020, 0x0000_71F9_71FF_720D_7210_721B_7228_722D_722C_7230_7232_723B_723C_723F_7240_7246⟩,
  ⟨0x6030, 0x724B_7258_7274_727E_7282_7281_7287_7292_7296_72A2_72A7_72B9_72B2_72C3_72C6_72C4⟩,
  ⟨0x6040, 0x72CE_72D2_72E2_72E0_72E1_72F9_72F7_500F_7317_730A_731C_7316_731D_7334_732F_7329⟩,
  ⟨0x6050, 0x7325_733E_734E_734F_9ED8_7357_736A_7368_7370_7378_7375_737B_737A_73C8_73B3_73CE⟩,
  ⟨0x6060, 0x73BB_73C0_73E5_73EE_73DE_74A2_7405_746F_7425_73F8_7432_743A_7455_743F_745F_7459⟩,
  ⟨0x6070, 0x7441_745C_7469_7470_7463_746A_7476_747E_748B_749E_74A7_74CA_74CF_74D4_73F1_0000⟩,
  ⟨0x6120, 0x0000_74E0_74E3_74E7_74E9_74EE_74F2_74F0_74F1_74F8_74F7_7504_7503_7505_750C_750E⟩,
  ⟨0x6130, 0x750D_7515_7513_751E_7526_752C_753C_7544_754D_754A_7549_755B_7546_755A_7569_7564⟩,
  ⟨0x6140, 0x7567_756B_756D_7578_7576_7586_7587_7574_758A_7589_7582_7594_759A_759D_75A5_75A3⟩,
  ⟨0x6150, 0x75C2_75B3_75C3_75B5_75BD_75B8_75BC_75B1_75CD_75CA_75D2_75D9_75E3_75DE_75FE_75FF⟩,
  ⟨0x6160, 0x75FC_7601_75F0_75FA_75F2_75F3_760B_760D_7609_761F_7627_7620_7621_7622_7624_7634⟩,
  ⟨0x6170, 0x7630_763B_7647_7648_7646_765C_7658_7661_7662_7668_7669_766A_7667_766C_7670_0000⟩,
  ⟨0x6220, 0x0000_7672_7676_7678_767C_7680_7683_7688_768B_768E_7696_7693_7699_769A_76B0_76B4⟩,
  ⟨0x6230, 0x76B8_76B9_76BA_76C2_76CD_76D6_76D2_76DE_76E1_76E5_76E7_76EA_862F_76FB_7708_7707⟩,
  ⟨0x6240, 0x7704_7729_7724_771E_7725_7726_771B_7737_7738_7747_775A_7768_776B_775B_7765_777F⟩,
  ⟨0x6250, 0x777E_7779_778E_778B_7791_77A0_779E_77B0_77B6_77B9_77BF_77BC_77BD_77BB_77C7_77CD⟩,
  ⟨0x6260, 0x77D7_77DA_77DC_77E3_77EE_77FC_780C_7812_7926_7820_792A_7845_788E_7874_7886_787C⟩,
  ⟨0x6270, 0x789A_788C_78A3_78B5_78AA_78AF_78D1_78C6_78CB_78D4_78BE_78BC_78C5_78CA_78EC_0000⟩,
  ⟨0x6320, 0x0000_78E7_78DA_78FD_78F4_7907_7912_7911_7919_792C_792B_7940_7960_7957_795F_795A⟩,
  ⟨0x6330, 0x7955_7953_797A_797F_798A_799D_79A7_9F4B_79AA_79AE_79B3_79B9_79BA_79C9_79D5_79E7⟩,
  ⟨0x6340, 0x79EC_79E1_79E3_7A08_7A0D_7A18_7A19_7A20_7A1F_7980_7A31_7A3B_7A3E_7A37_7A43_7A57⟩,
  ⟨0x6350, 0x7A49_7A61_7A62_7A69_9F9D_7A70_7A79_7A7D_7A88_7A97_7A95_7A98_7A96_7AA9_7AC8_7AB0⟩,
  ⟨0x6360, 0x7AB6_7AC5_7AC4_7ABF_9083_7AC7_7ACA_7ACD_7ACF_7AD5_7AD3_7AD9_7ADA_7ADD_7AE1_7AE2⟩,
  ⟨0x6370, 0x7AE6_7AED_7AF0_7B02_7B0F_7B0A_7B06_7B33_7B18_7B19_7B1E_7B35_7B28_7B36_7B50_0000⟩,
  ⟨0x6420, 0x0000_7B7A_7B04_7B4D_7B0B_7B4C_7B45_7B75_7B65_7B74_7B67_7B70_7B71_7B6C_7B6E_7B9D⟩,
  ⟨0x6430, 0x7B98_7B9F_7B8D_7B9C_7B9A_7B8B_7B92_7B8F_7B5D_7B99_7BCB_7BC1_7BCC_7BCF_7BB4_7BC6⟩,
  ⟨0x6440, 0x7BDD_7BE9_7C11_7C14_7BE6_7BE5_7C60_7C00_7C07_7C13_7BF3_7BF7_7C17_7C0D_7BF6_7C23⟩,
  ⟨0x6450, 0x7C27_7C2A_7C1F_7C37_7C2B_7C3D_7C4C_7C43_7C54_7C4F_7C40_7C50_7C58_7C5F_7C64_7C56⟩,
  ⟨0x6460, 0x7C65_7C6C_7C75_7C83_7C90_7CA4_7CAD_7CA2_7CAB_7CA1_7CA8_7CB3_7CB2_7CB1_7CAE_7CB9⟩,
  ⟨0x6470, 0x7CBD_7CC0_7CC5_7CC2_7CD8_7CD2_7CDC_7CE2_9B3B_7CEF_7CF2_7CF4_7CF6_7CFA_7D06_0000⟩,
  ⟨0x6520, 0x0000_7D02_7D1C_7D15_7D0A_7D45_7D4B_7D2E_7D32_7D3F_7D35_7D46_7D73_7D56_7D4E_7D72⟩,
  ⟨0x6530, 0x7D68_7D6E_7D4F_7D63_7D93_7D89_7D5B_7D8F_7D7D_7D9B_7DBA_7DAE_7DA3_7DB5_7DC7_7DBD⟩,
  ⟨0x6540, 0x7DAB_7E3D_7DA2_7DAF_7DDC_7DB8_7D9F_7DB0_7DD8_7DDD_7DE4_7DDE_7DFB_7DF2_7DE1_7E05⟩,
  ⟨0x6550, 0x7E0A_7E23_7E21_7E12_7E31_7E1F_7E09_7E0B_7E22_7E46_7E66_7E3B_7E35_7E39_7E43_7E37⟩,
  ⟨0x6560, 0x7E32_7E3A_7E67_7E5D_7E56_7E5E_7E59_7E5A_7E79_7E6A_7E69_7E7C_7E7B_7E83_7DD5_7E7D⟩,
  ⟨0x6570, 0x8FAE_7E7F_7E88_7E89_7E8C_7E92_7E90_7E93_7E94_7E96_7E8E_7E9B_7E9C_7F38_7F3A_0000⟩,
  ⟨0x6620, 0x0000_7F45_7F4C_7F4D_7F4E_7F50_7F51_7F55_7F54_7F58_7F5F_7F60_7F68_7F69_7F67_7F78⟩,
  ⟨0x6630, 0x7F82_7F86_7F83_7F88_7F87_7F8C_7F94_7F9E_7F9D_7F9A_7FA3_7FAF_7FB2_7FB9_7FAE_7FB6⟩,
  ⟨0x6640, 0x7FB8_8B71_7FC5_7FC6_7FCA_7FD5_7FD4_7FE1_7FE6_7FE9_7FF3_7FF9_98DC_8006_8004_800B⟩,
  ⟨0x6650, 0x8012_8018_8019_801C_8021_8028_803F_803B_804A_8046_8052_8058_805A_805F_8062_8068⟩,
  ⟨0x6660, 0x8073_8072_8070_8076_8079_807D_807F_8084_8086_8085_809B_8093_809A_80AD_5190_80AC⟩,
  ⟨0x6670, 0x80DB_80E5_80D9_80DD_80C4_80DA_80D6_8109_80EF_80F1_811B_8129_8123_812F_814B_0000⟩,
  ⟨0x6720, 0x0000_968B_8146_813E_8153_8151_80FC_8171_816E_8165_8166_8174_8183_8188_818A_8180⟩,
  ⟨0x6730, 0x8182_81A0_8195_81A4_81A3_815F_8193_81A9_81B0_81B5_81BE_81B8_81BD_81C0_81C2_81BA⟩,
  ⟨0x6740, 0x81C9_81CD_81D1_81D9_81D8_81C8_81DA_81DF_81E0_81E7_81FA_81FB_81FE_8201_8202_8205⟩,
  ⟨0x6750, 0x8207_820A_820D_8210_8216_8229_822B_8238_8233_8240_8259_8258_825D_825A_825F_8264⟩,
  ⟨0x6760, 0x8262_8268_826A_826B_822E_8271_8277_8278_827E_828D_8292_82AB_829F_82BB_82AC_82E1⟩,
  ⟨0x6770, 0x82E3_82DF_82D2_82F4_82F3_82FA_8393_8303_82FB_82F9_82DE_8306_82DC_8309_82D9_0000⟩,
  ⟨0x6820, 0x0000_8335_8334_8316_8332_8331_8340_8339_8350_8345_832F_832B_8317_8318_8385_839A⟩,
  ⟨0x6830, 0x83AA_839F_83A2_8396_8323_838E_8387_838A_837C_83B5_8373_8375_83A0_8389_83A8_83F4⟩,
  ⟨0x6840, 0x8413_83EB_83CE_83FD_8403_83D8_840B_83C1_83F7_8407_83E0_83F2_840D_8422_8420_83BD⟩,
  ⟨0x6850, 0x8438_8506_83FB_846D_842A_843C_855A_8484_8477_846B_84AD_846E_8482_8469_8446_842C⟩,
  ⟨0x6860, 0x846F_8479_8435_84CA_8462_84B9_84BF_849F_84D9_84CD_84BB_84DA_84D0_84C1_84C6_84D6⟩,
  ⟨0x6870, 0x84A1_8521_84FF_84F4_8517_8518_852C_851F_8515_8514_84FC_8540_8563_8558_8548_0000⟩,
  ⟨0x6920, 0x0000_8541_8602_854B_8555_8580_85A4_8588_8591_858A_85A8_856D_8594_859B_85EA_8587⟩,
  ⟨0x6930, 0x859C_8577_857E_8590_85C9_85BA_85CF_85B9_85D0_85D5_85DD_85E5_85DC_85F9_860A_8613⟩,
  ⟨0x6940, 0x860B_85FE_85FA_8606_8622_861A_8630_863F_864D_4E55_8654_865F_8667_8671_8693_86A3⟩,
  ⟨0x6950, 0x86A9_86AA_868B_868C_86B6_86AF_86C4_86C6_86B0_86C9_8823_86AB_86D4_86DE_86E9_86EC⟩,
  ⟨0x6960, 0x86DF_86DB_86EF_8712_8706_8708_8700_8703_86FB_8711_8709_870D_86F9_870A_8734_873F⟩,
  ⟨0x6970, 0x8737_873B_8725_8729_871A_8760_875F_8778_874C_874E_8774_8757_8768_876E_8759_0000⟩,
  ⟨0x6A20, 0x0000_8753_8763_876A_8805_87A2_879F_8782_87AF_87CB_87BD_87C0_87D0_96D6_87AB_87C4⟩,
  ⟨0x6A30, 0x87B3_87C7_87C6_87BB_87EF_87F2_87E0_880F_880D_87FE_87F6_87F7_880E_87D2_8811_8816⟩,
  ⟨0x6A40, 0x8815_8822_8821_8831_8836_8839_8827_883B_8844_8842_8852_8859_885E_8862_886B_8881⟩,
  ⟨0x6A50, 0x887E_889E_8875_887D_88B5_8872_8882_8897_8892_88AE_8899_88A2_888D_88A4_88B0_88BF⟩,
  ⟨0x6A60, 0x88B1_88C3_88C4_88D4_88D8_88D9_88DD_88F9_8902_88FC_88F4_88E8_88F2_8904_890C_890A⟩,
  ⟨0x6A70, 0x8913_8943_891E_8925_892A_892B_8941_8944_893B_8936_8938_894C_891D_8960_895E_0000⟩,
  ⟨0x6B20, 0x0000_8966_8964_896D_896A_896F_8974_8977_897E_8983_8988_898A_8993_8998_89A1_89A9⟩,
  ⟨0x6B30, 0x89A6_89AC_89AF_89B2_89BA_89BD_89BF_89C0_89DA_89DC_89DD_89E7_89F4_89F8_8A03_8A16⟩,
  ⟨0x6B40, 0x8A10_8A0C_8A1B_8A1D_8A25_8A36_8A41_8A5B_8A52_8A46_8A48_8A7C_8A6D_8A6C_8A62_8A85⟩,
  ⟨0x6B50, 0x8A82_8A84_8AA8_8AA1_8A91_8AA5_8AA6_8A9A_8AA3_8AC4_8ACD_8AC2_8ADA_8AEB_8AF3_8AE7⟩,
  ⟨0x6B60, 0x8AE4_8AF1_8B14_8AE0_8AE2_8AF7_8ADE_8ADB_8B0C_8B07_8B1A_8AE1_8B16_8B10_8B17_8B20⟩,
  ⟨0x6B70, 0x8B33_97AB_8B26_8B2B_8B3E_8B28_8B41_8B4C_8B4F_8B4E_8B49_8B56_8B5B_8B5A_8B6B_0000⟩,
  ⟨0x6C20, 0x0000_8B5F_8B6C_8B6F_8B74_8B7D_8B80_8B8C_8B8E_8B92_8B93_8B96_8B99_8B9A_8C3A_8C41⟩,
  ⟨0x6C30, 0x8C3F_8C48_8C4C_8C4E_8C50_8C55_8C62_8C6C_8C78_8C7A_8C82_8C89_8C85_8C8A_8C8D_8C8E⟩,
  ⟨0x6C40, 0x8C94_8C7C_8C98_621D_8CAD_8CAA_8CBD_8CB2_8CB3_8CAE_8CB6_8CC8_8CC1_8CE4_8CE3_8CDA⟩,
  ⟨0x6C50, 0x8CFD_8CFA_8CFB_8D04_8D05_8D0A_8D07_8D0F_8D0D_8D10_9F4E_8D13_8CCD_8D14_8D16_8D67⟩,
  ⟨0x6C60, 0x8D6D_8D71_8D73_8D81_8D99_8DC2_8DBE_8DBA_8DCF_8DDA_8DD6_8DCC_8DDB_8DCB_8DEA_8DEB⟩,
  ⟨0x6C70, 0x8DDF_8DE3_8DFC_8E08_8E09_8DFF_8E1D_8E1E_8E10_8E1F_8E42_8E35_8E30_8E34_8E4A_0000⟩,
  ⟨0x6D20, 0x0000_8E47_8E49_8E4C_8E50_8E48_8E59_8E64_8E60_8E2A_8E63_8E55_8E76_8E72_8E7C_8E81⟩,
  ⟨0x6D30, 0x8E87_8E85_8E84_8E8B_8E8A_8E93_8E91_8E94_8E99_8EAA_8EA1_8EAC_8EB0_8EC6_8EB1_8EBE⟩,
  ⟨0x6D40, 0x8EC5_8EC8_8ECB_8EDB_8EE3_8EFC_8EFB_8EEB_8EFE_8F0A_8F05_8F15_8F12_8F19_8F13_8F1C⟩,
  ⟨0x6D50, 0x8F1F_8F1B_8F0C_8F26_8F33_8F3B_8F39_8F45_8F42_8F3E_8F4C_8F49_8F46_8F4E_8F57_8F5C⟩,
  ⟨0x6D60, 0x8F62_8F63_8F64_8F9C_8F9F_8FA3_8FAD_8FAF_8FB7_8FDA_8FE5_8FE2_8FEA_8FEF_9087_8FF4⟩,
  ⟨0x6D70, 0x9005_8FF9_8FFA_9011_9015_9021_900D_901E_9016_900B_9027_9036_9035_9039_8FF8_0000⟩,
  ⟨0x6E20, 0x0000_904F_9050_9051_9052_900E_9049_903E_9056_9058_905E_9068_906F_9076_96A8_9072⟩,
  ⟨0x6E30, 0x9082_907D_9081_9080_908A_9089_908F_90A8_90AF_90B1_90B5_90E2_90E4_6248_90DB_9102⟩,
  ⟨0x6E40, 0x9112_9119_9132_9130_914A_9156_9158_9163_9165_9169_9173_9172_918B_9189_9182_91A2⟩,
  ⟨0x6E50, 0x91AB_91AF_91AA_91B5_91B4_91BA_91C0_91C1_91C9_91CB_91D0_91D6_91DF_91E1_91DB_91FC⟩,
  ⟨0x6E60, 0x91F5_91F6_921E_91FF_9214_922C_9215_9211_925E_9257_9245_9249_9264_9248_9295_923F⟩,
  ⟨0x6E70, 0x924B_9250_929C_9296_9293_929B_925A_92CF_92B9_92B7_92E9_930F_92FA_9344_932E_0000⟩,
  ⟨0x6F20, 0x0000_9319_9322_931A_9323_933A_9335_933B_935C_9360_937C_936E_9356_93B0_93AC_93AD⟩,
  ⟨0x6F30, 0x9394_93B9_93D6_93D7_93E8_93E5_93D8_93C3_93DD_93D0_93C8_93E4_941A_9414_9413_9403⟩,
  ⟨0x6F40, 0x9407_9410_9436_942B_9435_9421_943A_9441_9452_9444_945B_9460_9462_945E_946A_9229⟩,
  ⟨0x6F50, 0x9470_9475_9477_947D_945A_947C_947E_9481_947F_9582_9587_958A_9594_9596_9598_9599⟩,
  ⟨0x6F60, 0x95A0_95A8_95A7_95AD_95BC_95BB_95B9_95BE_95CA_6FF6_95C3_95CD_95CC_95D5_95D4_95D6⟩,
  ⟨0x6F70, 0x95DC_95E1_95E5_95E2_9621_9628_962E_962F_9642_964C_964F_964B_9677_965C_965E_0000⟩,
  ⟨0x7020, 0x0000_965D_965F_9666_9672_966C_968D_9698_9695_9697_96AA_96A7_96B1_96B2_96B0_96B4⟩,
  ⟨0x7030, 0x96B6_96B8_96B9_96CE_96CB_96C9_96CD_894D_96DC_970D_96D5_96F9_9704_9706_9708_9713⟩,
  ⟨0x7040, 0x970E_9711_970F_9716_9719_9724_972A_9730_9739_973D_973E_9744_9746_9748_9742_9749⟩,
  ⟨0x7050, 0x975C_9760_9764_9766_9768_52D2_976B_9771_9779_9785_977C_9781_977A_9786_978B_978F⟩,
  ⟨0x7060, 0x9790_979C_97A8_97A6_97A3_97B3_97B4_97C3_97C6_97C8_97CB_97DC_97ED_9F4F_97F2_7ADF⟩,
  ⟨0x7070, 0x97F6_97F5_980F_980C_9838_9824_9821_9837_983D_9846_984F_984B_986B_986F_9870_0000⟩,
  ⟨0x7120, 0x0000_9871_9874_9873_98AA_98AF_98B1_98B6_98C4_98C3_98C6_98E9_98EB_9903_9909_9912⟩,
  ⟨0x7130, 0x9914_9918_9921_991D_991E_9924_9920_992C_992E_993D_993E_9942_9949_9945_9950_994B⟩,
  ⟨0x7140, 0x9951_9952_994C_9955_9997_9998_99A5_99AD_99AE_99BC_99DF_99DB_99DD_99D8_99D1_99ED⟩,
  ⟨0x7150, 0x99EE_99F1_99F2_99FB_99F8_9A01_9A0F_9A05_99E2_9A19_9A2B_9A37_9A45_9A42_9A40_9A43⟩,
  ⟨0x7160, 0x9A3E_9A55_9A4D_9A5B_9A57_9A5F_9A62_9A65_9A64_9A69_9A6B_9A6A_9AAD_9AB0_9ABC_9AC0⟩,
  ⟨0x7170, 0x9ACF_9AD1_9AD3_9AD4_9ADE_9ADF_9AE2_9AE3_9AE6_9AEF_9AEB_9AEE_9AF4_9AF1_9AF7_0000⟩,
  ⟨0x7220, 0x0000_9AFB_9B06_9B18_9B1A_9B1F_9B22_9B23_9B25_9B27_9B28_9B29_9B2A_9B2E_9B2F_9B32⟩,
  ⟨0x7230, 0x9B44_9B43_9B4F_9B4D_9B4E_9B51_9B58_9B74_9B93_9B83_9B91_9B96_9B97_9B9F_9BA0_9BA8⟩,
  ⟨0x7240, 0x9BB4_9BC0_9BCA_9BB9_9BC6_9BCF_9BD1_9BD2_9BE3_9BE2_9BE4_9BD4_9BE1_9C3A_9BF2_9BF1⟩,
  ⟨0x7250, 0x9BF0_9C15_9C14_9C09_9C13_9C0C_9C06_9C08_9C12_9C0A_9C04_9C2E_9C1B_9C25_9C24_9C21⟩,
  ⟨0x7260, 0x9C30_9C47_9C32_9C46_9C3E_9C5A_9C60_9C67_9C76_9C78_9CE7_9CEC_9CF0_9D09_9D08_9CEB⟩,
  ⟨0x7270, 0x9D03_9D06_9D2A_9D26_9DAF_9D23_9D1F_9D44_9D15_9D12_9D41_9D3F_9D3E_9D46_9D48_0000⟩,
  ⟨0x7320, 0x0000_9D5D_9D5E_9D64_9D51_9D50_9D59_9D72_9D89_9D87_9DAB_9D6F_9D7A_9D9A_9DA4_9DA9⟩,
  ⟨0x7330, 0x9DB2_9DC4_9DC1_9DBB_9DB8_9DBA_9DC6_9DCF_9DC2_9DD9_9DD3_9DF8_9DE6_9DED_9DEF_9DFD⟩,
  ⟨0x7340, 0x9E1A_9E1B_9E1E_9E75_9E79_9E7D_9E81_9E88_9E8B_9E8C_9E92_9E95_9E91_9E9D_9EA5_9EA9⟩,
  ⟨0x7350, 0x9EB8_9EAA_9EAD_9761_9ECC_9ECE_9ECF_9ED0_9ED4_9EDC_9EDE_9EDD_9EE0_9EE5_9EE8_9EEF⟩,
  ⟨0x7360, 0x9EF4_9EF6_9EF7_9EF9_9EFB_9EFC_9EFD_9F07_9F08_76B7_9F15_9F21_9F2C_9F3E_9F4A_9F52⟩,
  ⟨0x7370, 0x9F54_9F63_9F5F_9F60_9F61_9F66_9F67_9F6C_9F6A_9F77_9F72_9F76_9F95_9F9C_9FA0_0000⟩,
  ⟨0x7420, 0x0000_582F_69C7_9059_7464_51DC_7199_0000_0000_0000_0000_0000_0000_0000_0000_0000⟩]

def jisX0208 : CodeTable := .ofColumns jisX0208Columns

end CodeExtension.Standard
