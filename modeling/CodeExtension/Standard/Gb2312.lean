import CodeExtension.CodeTable

/-! GB 2312, the Chinese set of simplified hanzi and symbols, with the later additions to its
symbol rows. -/
namespace CodeExtension.Standard

def gb2312Columns : List Column := [
  ⟨0x2120, 0x0000_3000_3001_3002_00B7_02C9_02C7_00A8_3003_3005_2014_FF5E_2016_2026_2018_2019⟩,
  ⟨0x2130, 0x201C_201D_3014_3015_3008_3009_300A_300B_300C_300D_300E_300F_3016_3017_3010_3011⟩,
  ⟨0x2140, 0x00B1_00D7_00F7_2236_2227_2228_2211_220F_222A_2229_2208_2237_221A_22A5_2225_2220⟩,
  ⟨0x2150, 0x2312_2299_222B_222E_2261_224C_2248_223D_221D_2260_226E_226F_2264_2265_221E_2235⟩,
  ⟨0x2160, 0x2234_2642_2640_00B0_2032_2033_2103_FF04_00A4_FFE0_FFE1_2030_00A7_2116_2606_2605⟩,
  ⟨0x2170, 0x25CB_25CF_25CE_25C7_25C6_25A1_25A0_25B3_25B2_203B_2192_2190_2191_2193_3013_0000⟩,
  ⟨0x2220, 0x0000_2170_2171_2172_2173_2174_2175_2176_2177_2178_2179_0000_0000_0000_0000_0000⟩,
  ⟨0x2230, 0x0000_2488_2489_248A_248B_248C_248D_248E_248F_2490_2491_2492_2493_2494_2495_2496⟩,
  ⟨0x2240, 0x2497_2498_2499_249A_249B_2474_2475_2476_2477_2478_2479_247A_247B_247C_247D_247E⟩,
  ⟨0x2250, 0x247F_2480_2481_2482_2483_2484_2485_2486_2487_2460_2461_2462_2463_2464_2465_2466⟩,
  ⟨0x2260, 0x2467_2468_2469_20AC_0000_3220_3221_3222_3223_3224_3225_3226_3227_3228_3229_0000⟩,
  ⟨0x2270, 0x0000_2160_2161_2162_2163_2164_2165_2166_2167_2168_2169_216A_216B_0000_0000_0000⟩,
  ⟨0x2320, 0x0000_FF01_FF02_FF03_FFE5_FF05_FF06_FF07_FF08_FF09_FF0A_FF0B_FF0C_FF0D_FF0E_FF0F⟩,
  ⟨0x2330, 0xFF10_FF11_FF12_FF13_FF14_FF15_FF16_FF17_FF18_FF19_FF1A_FF1B_FF1C_FF1D_FF1E_FF1F⟩,
  ⟨0x2340, 0xFF20_FF21_FF22_FF23_FF24_FF25_FF26_FF27_FF28_FF29_FF2A_FF2B_FF2C_FF2D_FF2E_FF2F⟩,
  ⟨0x2350, 0xFF30_FF31_FF32_FF33_FF34_FF35_FF36_FF37_FF38_FF39_FF3A_FF3B_FF3C_FF3D_FF3E_FF3F⟩,
  ⟨0x2360, 0xFF40_FF41_FF42_FF43_FF44_FF45_FF46_FF47_FF48_FF49_FF4A_FF4B_FF4C_FF4D_FF4E_FF4F⟩,
  ⟨0x2370, 0xFF50_FF51_FF52_FF53_FF54_FF55_FF56_FF57_FF58_FF59_FF5A_FF5B_FF5C_FF5D_FFE3_0000⟩,
  ⟨0x2420, 0x0000_3041_3042_3043_3044_3045_3046_3047_3048_3049_304A_304B_304C_304D_304E_304F⟩,
  ⟨0x2430, 0x3050_3051_3052_3053_3054_3055_3056_3057_3058_3059_305A_305B_305C_305D_305E_305F⟩,
  ⟨0x2440, 0x3060_3061_3062_3063_3064_3065_3066_3067_3068_3069_306A_306B_306C_306D_306E_306F⟩,
  ⟨0x2450, 0x3070_3071_3072_3073_3074_3075_3076_3077_3078_3079_307A_307B_307C_307D_307E_307F⟩,
  ⟨0x2460, 0x3080_3081_3082_3083_3084_3085_3086_3087_3088_3089_308A_308B_308C_308D_308E_308F⟩,
  ⟨0x2470, 0x3090_3091_3092_3093_0000_0000_0000_0000_0000_0000_0000_0000_0000_0000_0000_0000⟩,
  ⟨0x2520, 0x0000_30A1_30A2_30A3_30A4_30A5_30A6_30A7_30A8_30A9_30AA_30AB_30AC_30AD_30AE_30AF⟩,
  ⟨0x2530, 0x30B0_30B1_30B2_30B3_30B4_30B5_30B6_30B7_30B8_30B9_30BA_30BB_30BC_30BD_30BE_30BF⟩,
  ⟨0x2540, 0x30C0_30C1_30C2_30C3_30C4_30C5_30C6_30C7_30C8_30C9_30CA_30CB_30CC_30CD_30CE_30CF⟩,
  ⟨0x2550, 0x30D0_30D1_30D2_30D3_30D4_30D5_30D6_30D7_30D8_30D9_30DA_30DB_30DC_30DD_30DE_30DF⟩,
  ⟨0x2560, 0x30E0_30E1_30E2_30E3_30E4_30E5_30E6_30E7_30E8_30E9_30EA_30EB_30EC_30ED_30EE_30EF⟩,
  ⟨0x2570, 0x30F0_30F1_30F2_30F3_30F4_30F5_30F6_0000_0000_0000_0000_0000_0000_0000_0000_0000⟩,
  ⟨0x2620, 0x0000_0391_0392_0393_0394_0395_0396_0397_0398_0399_039A_039B_039C_039D_039E_039F⟩,
  ⟨0x2630, 0x03A0_03A1_03A3_03A4_03A5_03A6_03A7_03A8_03A9_0000_0000_0000_0000_0000_0000_0000⟩,
  ⟨0x2640, 0x0000_03B1_03B2_03B3_03B4_03B5_03B6_03B7_03B8_03B9_03BA_03BB_03BC_03BD_03BE_03BF⟩,
  ⟨0x2650, 0x03C0_03C1_03C3_03C4_03C5_03C6_03C7_03C8_03C9_FE10_FE12_FE11_FE13_FE14_FE15_FE16⟩,
  ⟨0x2660, 0xFE35_FE36_FE39_FE3A_FE3F_FE40_FE3D_FE3E_FE41_FE42_FE43_FE44_FE17_FE18_FE3B_FE3C⟩,
  ⟨0x2670, 0xFE37_FE38_FE31_FE19_FE33_FE34_0000_0000_0000_0000_0000_0000_0000_0000_0000_0000⟩,
  ⟨0x2720, 0x0000_0410_0411_0412_0413_0414_0415_0401_0416_0417_0418_0419_041A_041B_041C_041D⟩,
  ⟨0x2730, 0x041E_041F_0420_0421_0422_0423_0424_0425_0426_0427_0428_0429_042A_042B_042C_042D⟩,
  ⟨0x2740, 0x042E_042F_0000_0000_0000_0000_0000_0000_0000_0000_0000_0000_0000_0000_0000_0000⟩,
  ⟨0x2750, 0x0000_0430_0431_0432_0433_0434_0435_0451_0436_0437_0438_0439_043A_043B_043C_043D⟩,
  ⟨0x2760, 0x043E_043F_0440_0441_0442_0443_0444_0445_0446_0447_0448_0449_044A_044B_044C_044D⟩,
  ⟨0x2770, 0x044E_044F_0000_0000_0000_0000_0000_0000_0000_0000_0000_0000_0000_0000_0000_0000⟩,
  ⟨0x2820, 0x0000_0101_00E1_01CE_00E0_0113_00E9_011B_00E8_012B_00ED_01D0_00EC_014D_00F3_01D2⟩,
  ⟨0x2830, 0x00F2_016B_00FA_01D4_00F9_01D6_01D8_01DA_01DC_00FC_00EA_0251_1E3F_0144_0148_01F9⟩,
  ⟨0x2840, 0x0261_0000_0000_0000_0000_3105_3106_3107_3108_3109_310A_310B_310C_310D_310E_310F⟩,
  ⟨0x2850, 0x3110_3111_3112_3113_3114_3115_3116_3117_3118_3119_311A_311B_311C_311D_311E_311F⟩,
  ⟨0x2860, 0x3120_3121_3122_3123_3124_3125_3126_3127_3128_3129_0000_0000_0000_0000_0000_0000⟩,
  ⟨0x2920, 0x0000_0000_0000_0000_2500_2501_2502_2503_2504_2505_2506_2507_2508_2509_250A_250B⟩,
  ⟨0x2930, 0x250C_250D_250E_250F_2510_2511_2512_2513_2514_2515_2516_2517_2518_2519_251A_251B⟩,
  ⟨0x2940, 0x251C_251D_251E_251F_2520_2521_2522_2523_2524_2525_2526_2527_2528_2529_252A_252B⟩,
  ⟨0x2950, 0x252C_252D_252E_252F_2530_2531_2532_2533_2534_2535_2536_2537_2538_2539_253A_253B⟩,
  ⟨0x2960, 0x253C_253D_253E_253F_2540_2541_2542_2543_2544_2545_2546_2547_2548_2549_254A_254B⟩,
  ⟨0x3020, 0x0000_554A_963F_57C3_6328_54CE_5509_54C0_7691_764C_853C_77EE_827E_788D_7231_9698⟩,
  ⟨0x3030, 0x978D_6C28_5B89_4FFA_6309_6697_5CB8_80FA_6848_80AE_6602_76CE_51F9_6556_71AC_7FF1⟩,
  ⟨0x3040, 0x8884_50B2_5965_61CA_6FB3_82AD_634C_6252_53ED_5427_7B06_516B_75A4_5DF4_62D4_8DCB⟩,
  ⟨0x3050, 0x9776_628A_8019_575D_9738_7F62_7238_767D_67CF_767E_6446_4F70_8D25_62DC_7A17_6591⟩,
  ⟨0x3060, 0x73ED_642C_6273_822C_9881_677F_7248_626E_62CC_4F34_74E3_534A_529E_7ECA_90A6_5E2E⟩,
  ⟨0x3070, 0x6886_699C_8180_7ED1_68D2_78C5_868C_9551_508D_8C24_82DE_80DE_5305_8912_5265_0000⟩,
  ⟨0x3120, 0x0000_8584_96F9_4FDD_5821_9971_5B9D_62B1_62A5_66B4_8C79_9C8D_7206_676F_7891_60B2⟩,
  ⟨0x3130, 0x5351_5317_8F88_80CC_8D1D_94A1_500D_72C8_5907_60EB_7119_88AB_5954_82EF_672C_7B28⟩,
  ⟨0x3140, 0x5D29_7EF7_752D_6CF5_8E66_8FF8_903C_9F3B_6BD4_9119_7B14_5F7C_78A7_84D6_853D_6BD5⟩,
  ⟨0x3150, 0x6BD9_6BD6_5E01_5E87_75F9_95ED_655D_5F0A_5FC5_8F9F_58C1_81C2_907F_965B_97AD_8FB9⟩,
  ⟨0x3160, 0x7F16_8D2C_6241_4FBF_53D8_535E_8FA8_8FA9_8FAB_904D_6807_5F6A_8198_8868_9CD6_618B⟩,
  ⟨0x3170, 0x522B_762A_5F6C_658C_6FD2_6EE8_5BBE_6448_5175_51B0_67C4_4E19_79C9_997C_70B3_0000⟩,
  ⟨0x3220, 0x0000_75C5_5E76_73BB_83E0_64AD_62E8_94B5_6CE2_535A_52C3_640F_94C2_7B94_4F2F_5E1B⟩,
  ⟨0x3230, 0x8236_8116_818A_6E24_6CCA_9A73_6355_535C_54FA_8865_57E0_4E0D_5E03_6B65_7C3F_90E8⟩,
  ⟨0x3240, 0x6016_64E6_731C_88C1_6750_624D_8D22_776C_8E29_91C7_5F69_83DC_8521_9910_53C2_8695⟩,
  ⟨0x3250, 0x6B8B_60ED_60E8_707F_82CD_8231_4ED3_6CA7_85CF_64CD_7CD9_69FD_66F9_8349_5395_7B56⟩,
  ⟨0x3260, 0x4FA7_518C_6D4B_5C42_8E6D_63D2_53C9_832C_8336_67E5_78B4_643D_5BDF_5C94_5DEE_8BE7⟩,
  ⟨0x3270, 0x62C6_67F4_8C7A_6400_63BA_8749_998B_8C17_7F20_94F2_4EA7_9610_98A4_660C_7316_0000⟩,
  ⟨0x3320, 0x0000_573A_5C1D_5E38_957F_507F_80A0_5382_655E_7545_5531_5021_8D85_6284_949E_671D⟩,
  ⟨0x3330, 0x5632_6F6E_5DE2_5435_7092_8F66_626F_64A4_63A3_5F7B_6F88_90F4_81E3_8FB0_5C18_6668⟩,
  ⟨0x3340, 0x5FF1_6C89_9648_8D81_886C_6491_79F0_57CE_6A59_6210_5448_4E58_7A0B_60E9_6F84_8BDA⟩,
  ⟨0x3350, 0x627F_901E_9A8B_79E4_5403_75F4_6301_5319_6C60_8FDF_5F1B_9A70_803B_9F7F_4F88_5C3A⟩,
  ⟨0x3360, 0x8D64_7FC5_65A5_70BD_5145_51B2_866B_5D07_5BA0_62BD_916C_7574_8E0C_7A20_6101_7B79⟩,
  ⟨0x3370, 0x4EC7_7EF8_7785_4E11_81ED_521D_51FA_6A71_53A8_8E87_9504_96CF_6EC1_9664_695A_0000⟩,
  ⟨0x3420, 0x0000_7840_50A8_77D7_6410_89E6_5904_63E3_5DDD_7A7F_693D_4F20_8239_5598_4E32_75AE⟩,
  ⟨0x3430, 0x7A97_5E62_5E8A_95EF_521B_5439_708A_6376_9524_5782_6625_693F_9187_5507_6DF3_7EAF⟩,
  ⟨0x3440, 0x8822_6233_7EF0_75B5_8328_78C1_96CC_8F9E_6148_74F7_8BCD_6B64_523A_8D50_6B21_806A⟩,
  ⟨0x3450, 0x8471_56F1_5306_4ECE_4E1B_51D1_7C97_918B_7C07_4FC3_8E7F_7BE1_7A9C_6467_5D14_50AC⟩,
  ⟨0x3460, 0x8106_7601_7CB9_6DEC_7FE0_6751_5B58_5BF8_78CB_64AE_6413_63AA_632B_9519_642D_8FBE⟩,
  ⟨0x3470, 0x7B54_7629_6253_5927_5446_6B79_50A3_6234_5E26_6B86_4EE3_8D37_888B_5F85_902E_0000⟩,
  ⟨0x3520, 0x0000_6020_803D_62C5_4E39_5355_90F8_63B8_80C6_65E6_6C2E_4F46_60EE_6DE1_8BDE_5F39⟩,
  ⟨0x3530, 0x86CB_5F53_6321_515A_8361_6863_5200_6363_8E48_5012_5C9B_7977_5BFC_5230_7A3B_60BC⟩,
  ⟨0x3540, 0x9053_76D7_5FB7_5F97_7684_8E6C_706F_767B_7B49_77AA_51F3_9093_5824_4F4E_6EF4_8FEA⟩,
  ⟨0x3550, 0x654C_7B1B_72C4_6DA4_7FDF_5AE1_62B5_5E95_5730_8482_7B2C_5E1D_5F1F_9012_7F14_98A0⟩,
  ⟨0x3560, 0x6382_6EC7_7898_70B9_5178_975B_57AB_7535_4F43_7538_5E97_60E6_5960_6DC0_6BBF_7889⟩,
  ⟨0x3570, 0x53FC_96D5_51CB_5201_6389_540A_9493_8C03_8DCC_7239_789F_8776_8FED_8C0D_53E0_0000⟩,
  ⟨0x3620, 0x0000_4E01_76EF_53EE_9489_9876_9F0E_952D_5B9A_8BA2_4E22_4E1C_51AC_8463_61C2_52A8⟩,
  ⟨0x3630, 0x680B_4F97_606B_51BB_6D1E_515C_6296_6597_9661_8C46_9017_75D8_90FD_7763_6BD2_728A⟩,
  ⟨0x3640, 0x72EC_8BFB_5835_7779_8D4C_675C_9540_809A_5EA6_6E21_5992_7AEF_77ED_953B_6BB5_65AD⟩,
  ⟨0x3650, 0x7F0E_5806_5151_961F_5BF9_58A9_5428_8E72_6566_987F_56E4_949D_76FE_9041_6387_54C6⟩,
  ⟨0x3660, 0x591A_593A_579B_8EB2_6735_8DFA_8235_5241_60F0_5815_86FE_5CE8_9E45_4FC4_989D_8BB9⟩,
  ⟨0x3670, 0x5A25_6076_5384_627C_904F_9102_997F_6069_800C_513F_8033_5C14_9975_6D31_4E8C_0000⟩,
  ⟨0x3720, 0x0000_8D30_53D1_7F5A_7B4F_4F10_4E4F_9600_6CD5_73D0_85E9_5E06_756A_7FFB_6A0A_77FE⟩,
  ⟨0x3730, 0x9492_7E41_51E1_70E6_53CD_8FD4_8303_8D29_72AF_996D_6CDB_574A_82B3_65B9_80AA_623F⟩,
  ⟨0x3740, 0x9632_59A8_4EFF_8BBF_7EBA_653E_83F2_975E_5561_98DE_80A5_532A_8BFD_5420_80BA_5E9F⟩,
  ⟨0x3750, 0x6CB8_8D39_82AC_915A_5429_6C1B_5206_7EB7_575F_711A_6C7E_7C89_594B_4EFD_5FFF_6124⟩,
  ⟨0x3760, 0x7CAA_4E30_5C01_67AB_8702_5CF0_950B_98CE_75AF_70FD_9022_51AF_7F1D_8BBD_5949_51E4⟩,
  ⟨0x3770, 0x4F5B_5426_592B_6577_80A4_5B75_6276_62C2_8F90_5E45_6C1F_7B26_4F0F_4FD8_670D_0000⟩,
  ⟨0x3820, 0x0000_6D6E_6DAA_798F_88B1_5F17_752B_629A_8F85_4FEF_91DC_65A7_812F_8151_5E9C_8150⟩,
  ⟨0x3830, 0x8D74_526F_8986_8D4B_590D_5085_4ED8_961C_7236_8179_8D1F_5BCC_8BA3_9644_5987_7F1A⟩,
  ⟨0x3840, 0x5490_5676_560E_8BE5_6539_6982_9499_76D6_6E89_5E72_7518_6746_67D1_7AFF_809D_8D76⟩,
  ⟨0x3850, 0x611F_79C6_6562_8D63_5188_521A_94A2_7F38_809B_7EB2_5C97_6E2F_6760_7BD9_768B_9AD8⟩,
  ⟨0x3860, 0x818F_7F94_7CD5_641E_9550_7A3F_544A_54E5_6B4C_6401_6208_9E3D_80F3_7599_5272_9769⟩,
  ⟨0x3870, 0x845B_683C_86E4_9601_9694_94EC_4E2A_5404_7ED9_6839_8DDF_8015_66F4_5E9A_7FB9_0000⟩,
  ⟨0x3920, 0x0000_57C2_803F_6897_5DE5_653B_529F_606D_9F9A_4F9B_8EAC_516C_5BAB_5F13_5DE9_6C5E⟩,
  ⟨0x3930, 0x62F1_8D21_5171_94A9_52FE_6C9F_82DF_72D7_57A2_6784_8D2D_591F_8F9C_83C7_5495_7B8D⟩,
  ⟨0x3940, 0x4F30_6CBD_5B64_59D1_9F13_53E4_86CA_9AA8_8C37_80A1_6545_987E_56FA_96C7_522E_74DC⟩,
  ⟨0x3950, 0x5250_5BE1_6302_8902_4E56_62D0_602A_68FA_5173_5B98_51A0_89C2_7BA1_9986_7F50_60EF⟩,
  ⟨0x3960, 0x704C_8D2F_5149_5E7F_901B_7470_89C4_572D_7845_5F52_9F9F_95FA_8F68_9B3C_8BE1_7678⟩,
  ⟨0x3970, 0x6842_67DC_8DEA_8D35_523D_8F8A_6EDA_68CD_9505_90ED_56FD_679C_88F9_8FC7_54C8_0000⟩,
  ⟨0x3A20, 0x0000_9AB8_5B69_6D77_6C26_4EA5_5BB3_9A87_9163_61A8_90AF_97E9_542B_6DB5_5BD2_51FD⟩,
  ⟨0x3A30, 0x558A_7F55_7FF0_64BC_634D_65F1_61BE_608D_710A_6C57_6C49_592F_676D_822A_58D5_568E⟩,
  ⟨0x3A40, 0x8C6A_6BEB_90DD_597D_8017_53F7_6D69_5475_559D_8377_83CF_6838_79BE_548C_4F55_5408⟩,
  ⟨0x3A50, 0x76D2_8C89_9602_6CB3_6DB8_8D6B_8910_9E64_8D3A_563F_9ED1_75D5_5F88_72E0_6068_54FC⟩,
  ⟨0x3A60, 0x4EA8_6A2A_8861_6052_8F70_54C4_70D8_8679_9E3F_6D2A_5B8F_5F18_7EA2_5589_4FAF_7334⟩,
  ⟨0x3A70, 0x543C_539A_5019_540E_547C_4E4E_5FFD_745A_58F6_846B_80E1_8774_72D0_7CCA_6E56_0000⟩,
  ⟨0x3B20, 0x0000_5F27_864E_552C_62A4_4E92_6CAA_6237_82B1_54D7_534E_733E_6ED1_753B_5212_5316⟩,
  ⟨0x3B30, 0x8BDD_69D0_5F8A_6000_6DEE_574F_6B22_73AF_6853_8FD8_7F13_6362_60A3_5524_75EA_8C62⟩,
  ⟨0x3B40, 0x7115_6DA3_5BA6_5E7B_8352_614C_9EC4_78FA_8757_7C27_7687_51F0_60F6_714C_6643_5E4C⟩,
  ⟨0x3B50, 0x604D_8C0E_7070_6325_8F89_5FBD_6062_86D4_56DE_6BC1_6094_6167_5349_60E0_6666_8D3F⟩,
  ⟨0x3B60, 0x79FD_4F1A_70E9_6C47_8BB3_8BF2_7ED8_8364_660F_5A5A_9B42_6D51_6DF7_8C41_6D3B_4F19⟩,
  ⟨0x3B70, 0x706B_83B7_6216_60D1_970D_8D27_7978_51FB_573E_57FA_673A_7578_7A3D_79EF_7B95_0000⟩,
  ⟨0x3C20, 0x0000_808C_9965_8FF9_6FC0_8BA5_9E21_59EC_7EE9_7F09_5409_6781_68D8_8F91_7C4D_96C6⟩,
  ⟨0x3C30, 0x53CA_6025_75BE_6C72_5373_5AC9_7EA7_6324_51E0_810A_5DF1_84DF_6280_5180_5B63_4F0E⟩,
  ⟨0x3C40, 0x796D_5242_60B8_6D4E_5BC4_5BC2_8BA1_8BB0_65E2_5FCC_9645_5993_7EE7_7EAA_5609_67B7⟩,
  ⟨0x3C50, 0x5939_4F73_5BB6_52A0_835A_988A_8D3E_7532_94BE_5047_7A3C_4EF7_67B6_9A7E_5AC1_6B7C⟩,
  ⟨0x3C60, 0x76D1_575A_5C16_7B3A_95F4_714E_517C_80A9_8270_5978_7F04_8327_68C0_67EC_78B1_7877⟩,
  ⟨0x3C70, 0x62E3_6361_7B80_4FED_526A_51CF_8350_69DB_9274_8DF5_8D31_89C1_952E_7BAD_4EF6_0000⟩,
  ⟨0x3D20, 0x0000_5065_8230_5251_996F_6E10_6E85_6DA7_5EFA_50F5_59DC_5C06_6D46_6C5F_7586_848B⟩,
  ⟨0x3D30, 0x6868_5956_8BB2_5320_9171_964D_8549_6912_7901_7126_80F6_4EA4_90CA_6D47_9A84_5A07⟩,
  ⟨0x3D40, 0x56BC_6405_94F0_77EB_4FA5_811A_72E1_89D2_997A_7F34_7EDE_527F_6559_9175_8F7F_8F83⟩,
  ⟨0x3D50, 0x53EB_7A96_63ED_63A5_7686_79F8_8857_9636_622A_52AB_8282_6854_6770_6377_776B_7AED⟩,
  ⟨0x3D60, 0x6D01_7ED3_89E3_59D0_6212_85C9_82A5_754C_501F_4ECB_75A5_8BEB_5C4A_5DFE_7B4B_65A4⟩,
  ⟨0x3D70, 0x91D1_4ECA_6D25_895F_7D27_9526_4EC5_8C28_8FDB_9773_664B_7981_8FD1_70EC_6D78_0000⟩,
  ⟨0x3E20, 0x0000_5C3D_52B2_8346_5162_830E_775B_6676_9CB8_4EAC_60CA_7CBE_7CB3_7ECF_4E95_8B66⟩,
  ⟨0x3E30, 0x666F_9888_9759_5883_656C_955C_5F84_75C9_9756_7ADF_7ADE_51C0_70AF_7A98_63EA_7A76⟩,
  ⟨0x3E40, 0x7EA0_7396_97ED_4E45_7078_4E5D_9152_53A9_6551_65E7_81FC_8205_548E_5C31_759A_97A0⟩,
  ⟨0x3E50, 0x62D8_72D9_75BD_5C45_9A79_83CA_5C40_5480_77E9_4E3E_6CAE_805A_62D2_636E_5DE8_5177⟩,
  ⟨0x3E60, 0x8DDD_8E1E_952F_4FF1_53E5_60E7_70AC_5267_6350_9E43_5A1F_5026_7737_5377_7EE2_6485⟩,
  ⟨0x3E70, 0x652B_6289_6398_5014_7235_89C9_51B3_8BC0_7EDD_5747_83CC_94A7_519B_541B_5CFB_0000⟩,
  ⟨0x3F20, 0x0000_4FCA_7AE3_6D5A_90E1_9A8F_5580_5496_5361_54AF_5F00_63E9_6977_51EF_6168_520A⟩,
  ⟨0x3F30, 0x582A_52D8_574E_780D_770B_5EB7_6177_7CE0_625B_6297_4EA2_7095_8003_62F7_70E4_9760⟩,
  ⟨0x3F40, 0x5777_82DB_67EF_68F5_78D5_9897_79D1_58F3_54B3_53EF_6E34_514B_523B_5BA2_8BFE_80AF⟩,
  ⟨0x3F50, 0x5543_57A6_6073_5751_542D_7A7A_6050_5B54_63A7_62A0_53E3_6263_5BC7_67AF_54ED_7A9F⟩,
  ⟨0x3F60, 0x82E6_9177_5E93_88E4_5938_57AE_630E_8DE8_80EF_5757_7B77_4FA9_5FEB_5BBD_6B3E_5321⟩,
  ⟨0x3F70, 0x7B50_72C2_6846_77FF_7736_65F7_51B5_4E8F_76D4_5CBF_7AA5_8475_594E_9B41_5080_0000⟩,
  ⟨0x4020, 0x0000_9988_6127_6E83_5764_6606_6346_56F0_62EC_6269_5ED3_9614_5783_62C9_5587_8721⟩,
  ⟨0x4030, 0x814A_8FA3_5566_83B1_6765_8D56_84DD_5A6A_680F_62E6_7BEE_9611_5170_6F9C_8C30_63FD⟩,
  ⟨0x4040, 0x89C8_61D2_7F06_70C2_6EE5_7405_6994_72FC_5ECA_90CE_6717_6D6A_635E_52B3_7262_8001⟩,
  ⟨0x4050, 0x4F6C_59E5_916A_70D9_6D9D_52D2_4E50_96F7_956D_857E_78CA_7D2F_5121_5792_64C2_808B⟩,
  ⟨0x4060, 0x7C7B_6CEA_68F1_695E_51B7_5398_68A8_7281_9ECE_7BF1_72F8_79BB_6F13_7406_674E_91CC⟩,
  ⟨0x4070, 0x9CA4_793C_8389_8354_540F_6817_4E3D_5389_52B1_783E_5386_5229_5088_4F8B_4FD0_0000⟩,
  ⟨0x4120, 0x0000_75E2_7ACB_7C92_6CA5_96B6_529B_7483_54E9_4FE9_8054_83B2_8FDE_9570_5EC9_601C⟩,
  ⟨0x4130, 0x6D9F_5E18_655B_8138_94FE_604B_70BC_7EC3_7CAE_51C9_6881_7CB1_826F_4E24_8F86_91CF⟩,
  ⟨0x4140, 0x667E_4EAE_8C05_64A9_804A_50DA_7597_71CE_5BE5_8FBD_6F66_4E86_6482_9563_5ED6_6599⟩,
  ⟨0x4150, 0x5217_88C2_70C8_52A3_730E_7433_6797_78F7_9716_4E34_90BB_9CDE_6DCB_51DB_8D41_541D⟩,
  ⟨0x4160, 0x62CE_73B2_83F1_96F6_9F84_94C3_4F36_7F9A_51CC_7075_9675_5CAD_9886_53E6_4EE4_6E9C⟩,
  ⟨0x4170, 0x7409_69B4_786B_998F_7559_5218_7624_6D41_67F3_516D_9F99_804B_5499_7B3C_7ABF_0000⟩,
  ⟨0x4220, 0x0000_9686_5784_62E2_9647_697C_5A04_6402_7BD3_6F0F_964B_82A6_5362_9885_5E90_7089⟩,
  ⟨0x4230, 0x63B3_5364_864F_9C81_9E93_788C_9732_8DEF_8D42_9E7F_6F5E_7984_5F55_9646_622E_9A74⟩,
  ⟨0x4240, 0x5415_94DD_4FA3_65C5_5C65_5C61_7F15_8651_6C2F_5F8B_7387_6EE4_7EFF_5CE6_631B_5B6A⟩,
  ⟨0x4250, 0x6EE6_5375_4E71_63A0_7565_62A1_8F6E_4F26_4ED1_6CA6_7EB6_8BBA_841D_87BA_7F57_903B⟩,
  ⟨0x4260, 0x9523_7BA9_9AA1_88F8_843D_6D1B_9A86_7EDC_5988_9EBB_739B_7801_8682_9A6C_9A82_561B⟩,
  ⟨0x4270, 0x5417_57CB_4E70_9EA6_5356_8FC8_8109_7792_9992_86EE_6EE1_8513_66FC_6162_6F2B_0000⟩,
  ⟨0x4320, 0x0000_8C29_8292_832B_76F2_6C13_5FD9_83BD_732B_8305_951A_6BDB_77DB_94C6_536F_8302⟩,
  ⟨0x4330, 0x5192_5E3D_8C8C_8D38_4E48_73AB_679A_6885_9176_9709_7164_6CA1_7709_5A92_9541_6BCF⟩,
  ⟨0x4340, 0x7F8E_6627_5BD0_59B9_5A9A_95E8_95F7_4EEC_840C_8499_6AAC_76DF_9530_731B_68A6_5B5F⟩,
  ⟨0x4350, 0x772F_919A_9761_7CDC_8FF7_8C1C_5F25_7C73_79D8_89C5_6CCC_871C_5BC6_5E42_68C9_7720⟩,
  ⟨0x4360, 0x7EF5_5195_514D_52C9_5A29_7F05_9762_82D7_63CF_7784_85D0_79D2_6E3A_5E99_5999_8511⟩,
  ⟨0x4370, 0x706D_6C11_62BF_76BF_654F_60AF_95FD_660E_879F_9E23_94ED_540D_547D_8C2C_6478_0000⟩,
  ⟨0x4420, 0x0000_6479_8611_6A21_819C_78E8_6469_9B54_62B9_672B_83AB_58A8_9ED8_6CAB_6F20_5BDE⟩,
  ⟨0x4430, 0x964C_8C0B_725F_67D0_62C7_7261_4EA9_59C6_6BCD_5893_66AE_5E55_52DF_6155_6728_76EE⟩,
  ⟨0x4440, 0x7766_7267_7A46_62FF_54EA_5450_94A0_90A3_5A1C_7EB3_6C16_4E43_5976_8010_5948_5357⟩,
  ⟨0x4450, 0x7537_96BE_56CA_6320_8111_607C_95F9_6DD6_5462_9981_5185_5AE9_80FD_59AE_9713_502A⟩,
  ⟨0x4460, 0x6CE5_5C3C_62DF_4F60_533F_817B_9006_6EBA_852B_62C8_5E74_78BE_64B5_637B_5FF5_5A18⟩,
  ⟨0x4470, 0x917F_9E1F_5C3F_634F_8042_5B7D_556E_954A_954D_6D85_60A8_67E0_72DE_51DD_5B81_0000⟩,
  ⟨0x4520, 0x0000_62E7_6CDE_725B_626D_94AE_7EBD_8113_6D53_519C_5F04_5974_52AA_6012_5973_6696⟩,
  ⟨0x4530, 0x8650_759F_632A_61E6_7CEF_8BFA_54E6_6B27_9E25_6BB4_85D5_5455_5076_6CA4_556A_8DB4⟩,
  ⟨0x4540, 0x722C_5E15_6015_7436_62CD_6392_724C_5F98_6E43_6D3E_6500_6F58_76D8_78D0_76FC_7554⟩,
  ⟨0x4550, 0x5224_53DB_4E53_5E9E_65C1_802A_80D6_629B_5486_5228_70AE_888D_8DD1_6CE1_5478_80DA⟩,
  ⟨0x4560, 0x57F9_88F4_8D54_966A_914D_4F69_6C9B_55B7_76C6_7830_62A8_70F9_6F8E_5F6D_84EC_68DA⟩,
  ⟨0x4570, 0x787C_7BF7_81A8_670B_9E4F_6367_78B0_576F_7812_9739_6279_62AB_5288_7435_6BD7_0000⟩,
  ⟨0x4620, 0x0000_5564_813E_75B2_76AE_5339_75DE_50FB_5C41_8B6C_7BC7_504F_7247_9A97_98D8_6F02⟩,
  ⟨0x4630, 0x74E2_7968_6487_77A5_62FC_9891_8D2B_54C1_8058_4E52_576A_82F9_840D_5E73_51ED_74F6⟩,
  ⟨0x4640, 0x8BC4_5C4F_5761_6CFC_9887_5A46_7834_9B44_8FEB_7C95_5256_6251_94FA_4EC6_8386_8461⟩,
  ⟨0x4650, 0x83E9_84B2_57D4_6734_5703_666E_6D66_8C31_66DD_7011_671F_6B3A_6816_621A_59BB_4E03⟩,
  ⟨0x4660, 0x51C4_6F06_67D2_6C8F_5176_68CB_5947_6B67_7566_5D0E_8110_9F50_65D7_7948_7941_9A91⟩,
  ⟨0x4670, 0x8D77_5C82_4E5E_4F01_542F_5951_780C_5668_6C14_8FC4_5F03_6C7D_6CE3_8BAB_6390_0000⟩,
  ⟨0x4720, 0x0000_6070_6D3D_7275_6266_948E_94C5_5343_8FC1_7B7E_4EDF_8C26_4E7E_9ED4_94B1_94B3⟩,
  ⟨0x4730, 0x524D_6F5C_9063_6D45_8C34_5811_5D4C_6B20_6B49_67AA_545B_8154_7F8C_5899_8537_5F3A⟩,
  ⟨0x4740, 0x62A2_6A47_9539_6572_6084_6865_77A7_4E54_4FA8_5DE7_9798_64AC_7FD8_5CED_4FCF_7A8D⟩,
  ⟨0x4750, 0x5207_8304_4E14_602F_7A83_94A6_4FB5_4EB2_79E6_7434_52E4_82B9_64D2_79BD_5BDD_6C81⟩,
  ⟨0x4760, 0x9752_8F7B_6C22_503E_537F_6E05_64CE_6674_6C30_60C5_9877_8BF7_5E86_743C_7A77_79CB⟩,
  ⟨0x4770, 0x4E18_90B1_7403_6C42_56DA_914B_6CC5_8D8B_533A_86C6_66F2_8EAF_5C48_9A71_6E20_0000⟩,
  ⟨0x4820, 0x0000_53D6_5A36_9F8B_8DA3_53BB_5708_98A7_6743_919B_6CC9_5168_75CA_62F3_72AC_5238⟩,
  ⟨0x4830, 0x529D_7F3A_7094_7638_5374_9E4A_69B7_786E_96C0_88D9_7FA4_7136_71C3_5189_67D3_74E4⟩,
  ⟨0x4840, 0x58E4_6518_56B7_8BA9_9976_6270_7ED5_60F9_70ED_58EC_4EC1_4EBA_5FCD_97E7_4EFB_8BA4⟩,
  ⟨0x4850, 0x5203_598A_7EAB_6254_4ECD_65E5_620E_8338_84C9_8363_878D_7194_6EB6_5BB9_7ED2_5197⟩,
  ⟨0x4860, 0x63C9_67D4_8089_8339_8815_5112_5B7A_5982_8FB1_4E73_6C5D_5165_8925_8F6F_962E_854A⟩,
  ⟨0x4870, 0x745E_9510_95F0_6DA6_82E5_5F31_6492_6D12_8428_816E_9CC3_585E_8D5B_4E09_53C1_0000⟩,
  ⟨0x4920, 0x0000_4F1E_6563_6851_55D3_4E27_6414_9A9A_626B_5AC2_745F_8272_6DA9_68EE_50E7_838E⟩,
  ⟨0x4930, 0x7802_6740_5239_6C99_7EB1_50BB_5565_715E_7B5B_6652_73CA_82EB_6749_5C71_5220_717D⟩,
  ⟨0x4940, 0x886B_95EA_9655_64C5_8D61_81B3_5584_6C55_6247_7F2E_5892_4F24_5546_8D4F_664C_4E0A⟩,
  ⟨0x4950, 0x5C1A_88F3_68A2_634E_7A0D_70E7_828D_52FA_97F6_5C11_54E8_90B5_7ECD_5962_8D4A_86C7⟩,
  ⟨0x4960, 0x820C_820D_8D66_6444_5C04_6151_6D89_793E_8BBE_7837_7533_547B_4F38_8EAB_6DF1_5A20⟩,
  ⟨0x4970, 0x7EC5_795E_6C88_5BA1_5A76_751A_80BE_614E_6E17_58F0_751F_7525_7272_5347_7EF3_0000⟩,
  ⟨0x4A20, 0x0000_7701_76DB_5269_80DC_5723_5E08_5931_72EE_65BD_6E7F_8BD7_5C38_8671_5341_77F3⟩,
  ⟨0x4A30, 0x62FE_65F6_4EC0_98DF_8680_5B9E_8BC6_53F2_77E2_4F7F_5C4E_9A76_59CB_5F0F_793A_58EB⟩,
  ⟨0x4A40, 0x4E16_67FF_4E8B_62ED_8A93_901D_52BF_662F_55DC_566C_9002_4ED5_4F8D_91CA_9970_6C0F⟩,
  ⟨0x4A50, 0x5E02_6043_5BA4_89C6_8BD5_6536_624B_9996_5B88_5BFF_6388_552E_53D7_7626_517D_852C⟩,
  ⟨0x4A60, 0x67A2_68B3_6B8A_6292_8F93_53D4_8212_6DD1_758F_4E66_8D4E_5B70_719F_85AF_6691_66D9⟩,
  ⟨0x4A70, 0x7F72_8700_9ECD_9F20_5C5E_672F_8FF0_6811_675F_620D_7AD6_5885_5EB6_6570_6F31_0000⟩,
  ⟨0x4B20, 0x0000_6055_5237_800D_6454_8870_7529_5E05_6813_62F4_971C_53CC_723D_8C01_6C34_7761⟩,
  ⟨0x4B30, 0x7A0E_542E_77AC_987A_821C_8BF4_7855_6714_70C1_65AF_6495_5636_601D_79C1_53F8_4E1D⟩,
  ⟨0x4B40, 0x6B7B_8086_5BFA_55E3_56DB_4F3A_4F3C_9972_5DF3_677E_8038_6002_9882_9001_5B8B_8BBC⟩,
  ⟨0x4B50, 0x8BF5_641C_8258_64DE_55FD_82CF_9165_4FD7_7D20_901F_7C9F_50F3_5851_6EAF_5BBF_8BC9⟩,
  ⟨0x4B60, 0x8083_9178_849C_7B97_867D_968B_968F_7EE5_9AD3_788E_5C81_7A57_9042_96A7_795F_5B59⟩,
  ⟨0x4B70, 0x635F_7B0B_84D1_68AD_5506_7F29_7410_7D22_9501_6240_584C_4ED6_5B83_5979_5854_0000⟩,
  ⟨0x4C20, 0x0000_736D_631E_8E4B_8E0F_80CE_82D4_62AC_53F0_6CF0_915E_592A_6001_6C70_574D_644A⟩,
  ⟨0x4C30, 0x8D2A_762B_6EE9_575B_6A80_75F0_6F6D_8C2D_8C08_5766_6BEF_8892_78B3_63A2_53F9_70AD⟩,
  ⟨0x4C40, 0x6C64_5858_642A_5802_68E0_819B_5510_7CD6_5018_8EBA_6DCC_8D9F_70EB_638F_6D9B_6ED4⟩,
  ⟨0x4C50, 0x7EE6_8404_6843_9003_6DD8_9676_8BA8_5957_7279_85E4_817E_75BC_8A8A_68AF_5254_8E22⟩,
  ⟨0x4C60, 0x9511_63D0_9898_8E44_557C_4F53_66FF_568F_60D5_6D95_5243_5C49_5929_6DFB_586B_7530⟩,
  ⟨0x4C70, 0x751C_606C_8214_8146_6311_6761_8FE2_773A_8DF3_8D34_94C1_5E16_5385_542C_70C3_0000⟩,
  ⟨0x4D20, 0x0000_6C40_5EF7_505C_4EAD_5EAD_633A_8247_901A_6850_916E_77B3_540C_94DC_5F64_7AE5⟩,
  ⟨0x4D30, 0x6876_6345_7B52_7EDF_75DB_5077_6295_5934_900F_51F8_79C3_7A81_56FE_5F92_9014_6D82⟩,
  ⟨0x4D40, 0x5C60_571F_5410_5154_6E4D_56E2_63A8_9893_817F_8715_892A_9000_541E_5C6F_81C0_62D6⟩,
  ⟨0x4D50, 0x6258_8131_9E35_9640_9A6E_9A7C_692D_59A5_62D3_553E_6316_54C7_86D9_6D3C_5A03_74E6⟩,
  ⟨0x4D60, 0x889C_6B6A_5916_8C4C_5F2F_6E7E_73A9_987D_4E38_70F7_5B8C_7897_633D_665A_7696_60CB⟩,
  ⟨0x4D70, 0x5B9B_5A49_4E07_8155_6C6A_738B_4EA1_6789_7F51_5F80_65FA_671B_5FD8_5984_5A01_0000⟩,
  ⟨0x4E20, 0x0000_5DCD_5FAE_5371_97E6_8FDD_6845_56F4_552F_60DF_4E3A_6F4D_7EF4_82C7_840E_59D4⟩,
  ⟨0x4E30, 0x4F1F_4F2A_5C3E_7EAC_672A_851A_5473_754F_80C3_5582_9B4F_4F4D_6E2D_8C13_5C09_6170⟩,
  ⟨0x4E40, 0x536B_761F_6E29_868A_6587_95FB_7EB9_543B_7A33_7D0A_95EE_55E1_7FC1_74EE_631D_8717⟩,
  ⟨0x4E50, 0x6DA1_7A9D_6211_65A1_5367_63E1_6C83_5DEB_545C_94A8_4E4C_6C61_8BEC_5C4B_65E0_829C⟩,
  ⟨0x4E60, 0x68A7_543E_5434_6BCB_6B66_4E94_6342_5348_821E_4F0D_4FAE_575E_620A_96FE_6664_7269⟩,
  ⟨0x4E70, 0x52FF_52A1_609F_8BEF_6614_7199_6790_897F_7852_77FD_6670_563B_5438_9521_727A_0000⟩,
  ⟨0x4F20, 0x0000_7A00_606F_5E0C_6089_819D_5915_60DC_7184_70EF_6EAA_6C50_7280_6A84_88AD_5E2D⟩,
  ⟨0x4F30, 0x4E60_5AB3_559C_94E3_6D17_7CFB_9699_620F_7EC6_778E_867E_5323_971E_8F96_6687_5CE1⟩,
  ⟨0x4F40, 0x4FA0_72ED_4E0B_53A6_590F_5413_6380_9528_5148_4ED9_9C9C_7EA4_54B8_8D24_8854_8237⟩,
  ⟨0x4F50, 0x95F2_6D8E_5F26_5ACC_663E_9669_73B0_732E_53BF_817A_9985_7FA1_5BAA_9677_9650_7EBF⟩,
  ⟨0x4F60, 0x76F8_53A2_9576_9999_7BB1_8944_6E58_4E61_7FD4_7965_8BE6_60F3_54CD_4EAB_9879_5DF7⟩,
  ⟨0x4F70, 0x6A61_50CF_5411_8C61_8427_785D_9704_524A_54EE_56A3_9500_6D88_5BB5_6DC6_6653_0000⟩,
  ⟨0x5020, 0x0000_5C0F_5B5D_6821_8096_5578_7B11_6548_6954_4E9B_6B47_874E_978B_534F_631F_643A⟩,
  ⟨0x5030, 0x90AA_659C_80C1_8C10_5199_68B0_5378_87F9_61C8_6CC4_6CFB_8C22_5C51_85AA_82AF_950C⟩,
  ⟨0x5040, 0x6B23_8F9B_65B0_5FFB_5FC3_4FE1_8845_661F_8165_7329_60FA_5174_5211_578B_5F62_90A2⟩,
  ⟨0x5050, 0x884C_9192_5E78_674F_6027_59D3_5144_51F6_80F8_5308_6C79_96C4_718A_4F11_4FEE_7F9E⟩,
  ⟨0x5060, 0x673D_55C5_9508_79C0_8896_7EE3_589F_620C_9700_865A_5618_987B_5F90_8BB8_84C4_9157⟩,
  ⟨0x5070, 0x53D9_65ED_5E8F_755C_6064_7D6E_5A7F_7EEA_7EED_8F69_55A7_5BA3_60AC_65CB_7384_0000⟩,
  ⟨0x5120, 0x0000_9009_7663_7729_7EDA_9774_859B_5B66_7A74_96EA_8840_52CB_718F_5FAA_65EC_8BE2⟩,
  ⟨0x5130, 0x5BFB_9A6F_5DE1_6B89_6C5B_8BAD_8BAF_900A_8FC5_538B_62BC_9E26_9E2D_5440_4E2B_82BD⟩,
  ⟨0x5140, 0x7259_869C_5D16_8859_6DAF_96C5_54D1_4E9A_8BB6_7109_54BD_9609_70DF_6DF9_76D0_4E25⟩,
  ⟨0x5150, 0x7814_8712_5CA9_5EF6_8A00_989C_960E_708E_6CBF_5944_63A9_773C_884D_6F14_8273_5830⟩,
  ⟨0x5160, 0x71D5_538C_781A_96C1_5501_5F66_7130_5BB4_8C1A_9A8C_6B83_592E_9E2F_79E7_6768_626C⟩,
  ⟨0x5170, 0x4F6F_75A1_7F8A_6D0B_9633_6C27_4EF0_75D2_517B_6837_6F3E_9080_8170_5996_7476_0000⟩,
  ⟨0x5220, 0x0000_6447_5C27_9065_7A91_8C23_59DA_54AC_8200_836F_8981_8000_6930_564E_8036_7237⟩,
  ⟨0x5230, 0x91CE_51B6_4E5F_9875_6396_4E1A_53F6_66F3_814B_591C_6DB2_4E00_58F9_533B_63D6_94F1⟩,
  ⟨0x5240, 0x4F9D_4F0A_8863_9890_5937_9057_79FB_4EEA_80F0_7591_6C82_5B9C_59E8_5F5D_6905_8681⟩,
  ⟨0x5250, 0x501A_5DF2_4E59_77E3_4EE5_827A_6291_6613_9091_5C79_4EBF_5F79_81C6_9038_8084_75AB⟩,
  ⟨0x5260, 0x4EA6_88D4_610F_6BC5_5FC6_4E49_76CA_6EA2_8BE3_8BAE_8C0A_8BD1_5F02_7FFC_7FCC_7ECE⟩,
  ⟨0x5270, 0x8335_836B_56E0_6BB7_97F3_9634_59FB_541F_94F6_6DEB_5BC5_996E_5C39_5F15_9690_0000⟩,
  ⟨0x5320, 0x0000_5370_82F1_6A31_5A74_9E70_5E94_7F28_83B9_8424_8425_8367_8747_8FCE_8D62_76C8⟩,
  ⟨0x5330, 0x5F71_9896_786C_6620_54DF_62E5_4F63_81C3_75C8_5EB8_96CD_8E0A_86F9_548F_6CF3_6D8C⟩,
  ⟨0x5340, 0x6C38_607F_52C7_7528_5E7D_4F18_60A0_5FE7_5C24_7531_90AE_94C0_72B9_6CB9_6E38_9149⟩,
  ⟨0x5350, 0x6709_53CB_53F3_4F51_91C9_8BF1_53C8_5E7C_8FC2_6DE4_4E8E_76C2_6986_865E_611A_8206⟩,
  ⟨0x5360, 0x4F59_4FDE_903E_9C7C_6109_6E1D_6E14_9685_4E88_5A31_96E8_4E0E_5C7F_79B9_5B87_8BED⟩,
  ⟨0x5370, 0x7FBD_7389_57DF_828B_90C1_5401_9047_55BB_5CEA_5FA1_6108_6B32_72F1_80B2_8A89_0000⟩,
  ⟨0x5420, 0x0000_6D74_5BD3_88D5_9884_8C6B_9A6D_9E33_6E0A_51A4_5143_57A3_8881_539F_63F4_8F95⟩,
  ⟨0x5430, 0x56ED_5458_5706_733F_6E90_7F18_8FDC_82D1_613F_6028_9662_66F0_7EA6_8D8A_8DC3_94A5⟩,
  ⟨0x5440, 0x5CB3_7CA4_6708_60A6_9605_8018_4E91_90E7_5300_9668_5141_8FD0_8574_915D_6655_97F5⟩,
  ⟨0x5450, 0x5B55_531D_7838_6742_683D_54C9_707E_5BB0_8F7D_518D_5728_54B1_6512_6682_8D5E_8D43⟩,
  ⟨0x5460, 0x810F_846C_906D_7CDF_51FF_85FB_67A3_65E9_6FA1_86A4_8E81_566A_9020_7682_7076_71E5⟩,
  ⟨0x5470, 0x8D23_62E9_5219_6CFD_8D3C_600E_589E_618E_66FE_8D60_624E_55B3_6E23_672D_8F67_0000⟩,
  ⟨0x5520, 0x0000_94E1_95F8_7728_6805_69A8_548B_4E4D_70B8_8BC8_6458_658B_5B85_7A84_503A_5BE8⟩,
  ⟨0x5530, 0x77BB_6BE1_8A79_7C98_6CBE_76CF_65A9_8F97_5D2D_5C55_8638_6808_5360_6218_7AD9_6E5B⟩,
  ⟨0x5540, 0x7EFD_6A1F_7AE0_5F70_6F33_5F20_638C_6DA8_6756_4E08_5E10_8D26_4ED7_80C0_7634_969C⟩,
  ⟨0x5550, 0x62DB_662D_627E_6CBC_8D75_7167_7F69_5146_8087_53EC_906E_6298_54F2_86F0_8F99_8005⟩,
  ⟨0x5560, 0x9517_8517_8FD9_6D59_73CD_659F_771F_7504_7827_81FB_8D1E_9488_4FA6_6795_75B9_8BCA⟩,
  ⟨0x5570, 0x9707_632F_9547_9635_84B8_6323_7741_5F81_72F0_4E89_6014_6574_62EF_6B63_653F_0000⟩,
  ⟨0x5620, 0x0000_5E27_75C7_90D1_8BC1_829D_679D_652F_5431_8718_77E5_80A2_8102_6C41_4E4B_7EC7⟩,
  ⟨0x5630, 0x804C_76F4_690D_6B96_6267_503C_4F84_5740_6307_6B62_8DBE_53EA_65E8_7EB8_5FD7_631A⟩,
  ⟨0x5640, 0x63B7_81F3_81F4_7F6E_5E1C_5CD9_5236_667A_79E9_7A1A_8D28_7099_75D4_6EDE_6CBB_7A92⟩,
  ⟨0x5650, 0x4E2D_76C5_5FE0_949F_8877_7EC8_79CD_80BF_91CD_4EF2_4F17_821F_5468_5DDE_6D32_8BCC⟩,
  ⟨0x5660, 0x7CA5_8F74_8098_5E1A_5492_76B1_5B99_663C_9AA4_73E0_682A_86DB_6731_732A_8BF8_8BDB⟩,
  ⟨0x5670, 0x9010_7AF9_70DB_716E_62C4_77A9_5631_4E3B_8457_67F1_52A9_86C0_8D2E_94F8_7B51_0000⟩,
  ⟨0x5720, 0x0000_4F4F_6CE8_795D_9A7B_6293_722A_62FD_4E13_7816_8F6C_64B0_8D5A_7BC6_6869_5E84⟩,
  ⟨0x5730, 0x88C5_5986_649E_58EE_72B6_690E_9525_8FFD_8D58_5760_7F00_8C06_51C6_6349_62D9_5353⟩,
  ⟨0x5740, 0x684C_7422_8301_914C_5544_7740_707C_6D4A_5179_54A8_8D44_59FF_6ECB_6DC4_5B5C_7D2B⟩,
  ⟨0x5750, 0x4ED4_7C7D_6ED3_5B50_81EA_6E0D_5B57_9B03_68D5_8E2A_5B97_7EFC_603B_7EB5_90B9_8D70⟩,
  ⟨0x5760, 0x594F_63CD_79DF_8DB3_5352_65CF_7956_8BC5_963B_7EC4_94BB_7E82_5634_9189_6700_7F6A⟩,
  ⟨0x5770, 0x5C0A_9075_6628_5DE6_4F50_67DE_505A_4F5C_5750_5EA7_0000_0000_0000_0000_0000_0000⟩,
  ⟨0x5820, 0x0000_4E8D_4E0C_5140_4E10_5EFF_5345_4E15_4E98_4E1E_9B32_5B6C_5669_4E28_79BA_4E3F⟩,
  ⟨0x5830, 0x5315_4E47_592D_723B_536E_6C10_56DF_80E4_9997_6BD3_777E_9F17_4E36_4E9F_9F10_4E5C⟩,
  ⟨0x5840, 0x4E69_4E93_8288_5B5B_556C_560F_4EC4_538D_539D_53A3_53A5_53AE_9765_8D5D_531A_53F5⟩,
  ⟨0x5850, 0x5326_532E_533E_8D5C_5366_5363_5202_5208_520E_522D_5233_523F_5240_524C_525E_5261⟩,
  ⟨0x5860, 0x525C_84AF_527D_5282_5281_5290_5293_5182_7F54_4EBB_4EC3_4EC9_4EC2_4EE8_4EE1_4EEB⟩,
  ⟨0x5870, 0x4EDE_4F1B_4EF3_4F22_4F64_4EF5_4F25_4F27_4F09_4F2B_4F5E_4F67_6538_4F5A_4F5D_0000⟩,
  ⟨0x5920, 0x0000_4F5F_4F57_4F32_4F3D_4F76_4F74_4F91_4F89_4F83_4F8F_4F7E_4F7B_4FAA_4F7C_4FAC⟩,
  ⟨0x5930, 0x4F94_4FE6_4FE8_4FEA_4FC5_4FDA_4FE3_4FDC_4FD1_4FDF_4FF8_5029_504C_4FF3_502C_500F⟩,
  ⟨0x5940, 0x502E_502D_4FFE_501C_500C_5025_5028_507E_5043_5055_5048_504E_506C_507B_50A5_50A7⟩,
  ⟨0x5950, 0x50A9_50BA_50D6_5106_50ED_50EC_50E6_50EE_5107_510B_4EDD_6C3D_4F58_4F65_4FCE_9FA0⟩,
  ⟨0x5960, 0x6C46_7C74_516E_5DFD_9EC9_9998_5181_5914_52F9_530D_8A07_5310_51EB_5919_5155_4EA0⟩,
  ⟨0x5970, 0x5156_4EB3_886E_88A4_4EB5_8114_88D2_7980_5B34_8803_7FB8_51AB_51B1_51BD_51BC_0000⟩,
  ⟨0x5A20, 0x0000_51C7_5196_51A2_51A5_8BA0_8BA6_8BA7_8BAA_8BB4_8BB5_8BB7_8BC2_8BC3_8BCB_8BCF⟩,
  ⟨0x5A30, 0x8BCE_8BD2_8BD3_8BD4_8BD6_8BD8_8BD9_8BDC_8BDF_8BE0_8BE4_8BE8_8BE9_8BEE_8BF0_8BF3⟩,
  ⟨0x5A40, 0x8BF6_8BF9_8BFC_8BFF_8C00_8C02_8C04_8C07_8C0C_8C0F_8C11_8C12_8C14_8C15_8C16_8C19⟩,
  ⟨0x5A50, 0x8C1B_8C18_8C1D_8C1F_8C20_8C21_8C25_8C27_8C2A_8C2B_8C2E_8C2F_8C32_8C33_8C35_8C36⟩,
  ⟨0x5A60, 0x5369_537A_961D_9622_9621_9631_962A_963D_963C_9642_9649_9654_965F_9667_966C_9672⟩,
  ⟨0x5A70, 0x9674_9688_968D_9697_96B0_9097_909B_909D_9099_90AC_90A1_90B4_90B3_90B6_90BA_0000⟩,
  ⟨0x5B20, 0x0000_90B8_90B0_90CF_90C5_90BE_90D0_90C4_90C7_90D3_90E6_90E2_90DC_90D7_90DB_90EB⟩,
  ⟨0x5B30, 0x90EF_90FE_9104_9122_911E_9123_9131_912F_9139_9143_9146_520D_5942_52A2_52AC_52AD⟩,
  ⟨0x5B40, 0x52BE_54FF_52D0_52D6_52F0_53DF_71EE_77CD_5EF4_51F5_51FC_9B2F_53B6_5F01_755A_5DEF⟩,
  ⟨0x5B50, 0x574C_57A9_57A1_587E_58BC_58C5_58D1_5729_572C_572A_5733_5739_572E_572F_575C_573B⟩,
  ⟨0x5B60, 0x5742_5769_5785_576B_5786_577C_577B_5768_576D_5776_5773_57AD_57A4_578C_57B2_57CF⟩,
  ⟨0x5B70, 0x57A7_57B4_5793_57A0_57D5_57D8_57DA_57D9_57D2_57B8_57F4_57EF_57F8_57E4_57DD_0000⟩,
  ⟨0x5C20, 0x0000_580B_580D_57FD_57ED_5800_581E_5819_5844_5820_5865_586C_5881_5889_589A_5880⟩,
  ⟨0x5C30, 0x99A8_9F19_61FF_8279_827D_827F_828F_828A_82A8_8284_828E_8291_8297_8299_82AB_82B8⟩,
  ⟨0x5C40, 0x82BE_82B0_82C8_82CA_82E3_8298_82B7_82AE_82CB_82CC_82C1_82A9_82B4_82A1_82AA_829F⟩,
  ⟨0x5C50, 0x82C4_82CE_82A4_82E1_8309_82F7_82E4_830F_8307_82DC_82F4_82D2_82D8_830C_82FB_82D3⟩,
  ⟨0x5C60, 0x8311_831A_8306_8314_8315_82E0_82D5_831C_8351_835B_835C_8308_8392_833C_8334_8331⟩,
  ⟨0x5C70, 0x839B_835E_832F_834F_8347_8343_835F_8340_8317_8360_832D_833A_8333_8366_8365_0000⟩,
  ⟨0x5D20, 0x0000_8368_831B_8369_836C_836A_836D_836E_83B0_8378_83B3_83B4_83A0_83AA_8393_839C⟩,
  ⟨0x5D30, 0x8385_837C_83B6_83A9_837D_83B8_837B_8398_839E_83A8_83BA_83BC_83C1_8401_83E5_83D8⟩,
  ⟨0x5D40, 0x5807_8418_840B_83DD_83FD_83D6_841C_8438_8411_8406_83D4_83DF_840F_8403_83F8_83F9⟩,
  ⟨0x5D50, 0x83EA_83C5_83C0_8426_83F0_83E1_845C_8451_845A_8459_8473_8487_8488_847A_8489_8478⟩,
  ⟨0x5D60, 0x843C_8446_8469_8476_848C_848E_8431_846D_84C1_84CD_84D0_84E6_84BD_84D3_84CA_84BF⟩,
  ⟨0x5D70, 0x84BA_84E0_84A1_84B9_84B4_8497_84E5_84E3_850C_750D_8538_84F0_8539_851F_853A_0000⟩,
  ⟨0x5E20, 0x0000_8556_853B_84FF_84FC_8559_8548_8568_8564_855E_857A_77A2_8543_8572_857B_85A4⟩,
  ⟨0x5E30, 0x85A8_8587_858F_8579_85AE_859C_8585_85B9_85B7_85B0_85D3_85C1_85DC_85FF_8627_8605⟩,
  ⟨0x5E40, 0x8629_8616_863C_5EFE_5F08_593C_5941_8037_5955_595A_5958_530F_5C22_5C25_5C2C_5C34⟩,
  ⟨0x5E50, 0x624C_626A_629F_62BB_62CA_62DA_62D7_62EE_6322_62F6_6339_634B_6343_63AD_63F6_6371⟩,
  ⟨0x5E60, 0x637A_638E_63B4_636D_63AC_638A_6369_63AE_63BC_63F2_63F8_63E0_63FF_63C4_63DE_63CE⟩,
  ⟨0x5E70, 0x6452_63C6_63BE_6445_6441_640B_641B_6420_640C_6426_6421_645E_6484_646D_6496_0000⟩,
  ⟨0x5F20, 0x0000_647A_64B7_64B8_6499_64BA_64C0_64D0_64D7_64E4_64E2_6509_6525_652E_5F0B_5FD2⟩,
  ⟨0x5F30, 0x7519_5F11_535F_53F1_53FD_53E9_53E8_53FB_5412_5416_5406_544B_5452_5453_5454_5456⟩,
  ⟨0x5F40, 0x5443_5421_5457_5459_5423_5432_5482_5494_5477_5471_5464_549A_549B_5484_5476_5466⟩,
  ⟨0x5F50, 0x549D_54D0_54AD_54C2_54B4_54D2_54A7_54A6_54D3_54D4_5472_54A3_54D5_54BB_54BF_54CC⟩,
  ⟨0x5F60, 0x54D9_54DA_54DC_54A9_54AA_54A4_54DD_54CF_54DE_551B_54E7_5520_54FD_5514_54F3_5522⟩,
  ⟨0x5F70, 0x5523_550F_5511_5527_552A_5567_558F_55B5_5549_556D_5541_5555_553F_5550_553C_0000⟩,
  ⟨0x6020, 0x0000_5537_5556_5575_5576_5577_5533_5530_555C_558B_55D2_5583_55B1_55B9_5588_5581⟩,
  ⟨0x6030, 0x559F_557E_55D6_5591_557B_55DF_55BD_55BE_5594_5599_55EA_55F7_55C9_561F_55D1_55EB⟩,
  ⟨0x6040, 0x55EC_55D4_55E6_55DD_55C4_55EF_55E5_55F2_55F3_55CC_55CD_55E8_55F5_55E4_8F94_561E⟩,
  ⟨0x6050, 0x5608_560C_5601_5624_5623_55FE_5600_5627_562D_5658_5639_5657_562C_564D_5662_5659⟩,
  ⟨0x6060, 0x565C_564C_5654_5686_5664_5671_566B_567B_567C_5685_5693_56AF_56D4_56D7_56DD_56E1⟩,
  ⟨0x6070, 0x56F5_56EB_56F9_56FF_5704_570A_5709_571C_5E0F_5E19_5E14_5E11_5E31_5E3B_5E3C_0000⟩,
  ⟨0x6120, 0x0000_5E37_5E44_5E54_5E5B_5E5E_5E61_5C8C_5C7A_5C8D_5C90_5C96_5C88_5C98_5C99_5C91⟩,
  ⟨0x6130, 0x5C9A_5C9C_5CB5_5CA2_5CBD_5CAC_5CAB_5CB1_5CA3_5CC1_5CB7_5CC4_5CD2_5CE4_5CCB_5CE5⟩,
  ⟨0x6140, 0x5D02_5D03_5D27_5D26_5D2E_5D24_5D1E_5D06_5D1B_5D58_5D3E_5D34_5D3D_5D6C_5D5B_5D6F⟩,
  ⟨0x6150, 0x5D5D_5D6B_5D4B_5D4A_5D69_5D74_5D82_5D99_5D9D_8C73_5DB7_5DC5_5F73_5F77_5F82_5F87⟩,
  ⟨0x6160, 0x5F89_5F8C_5F95_5F99_5F9C_5FA8_5FAD_5FB5_5FBC_8862_5F61_72AD_72B0_72B4_72B7_72B8⟩,
  ⟨0x6170, 0x72C3_72C1_72CE_72CD_72D2_72E8_72EF_72E9_72F2_72F4_72F7_7301_72F3_7303_72FA_0000⟩,
  ⟨0x6220, 0x0000_72FB_7317_7313_7321_730A_731E_731D_7315_7322_7339_7325_732C_7338_7331_7350⟩,
  ⟨0x6230, 0x734D_7357_7360_736C_736F_737E_821B_5925_98E7_5924_5902_9963_9967_9968_9969_996A⟩,
  ⟨0x6240, 0x996B_996C_9974_9977_997D_9980_9984_9987_998A_998D_9990_9991_9993_9994_9995_5E80⟩,
  ⟨0x6250, 0x5E91_5E8B_5E96_5EA5_5EA0_5EB9_5EB5_5EBE_5EB3_8D53_5ED2_5ED1_5EDB_5EE8_5EEA_81BA⟩,
  ⟨0x6260, 0x5FC4_5FC9_5FD6_5FCF_6003_5FEE_6004_5FE1_5FE4_5FFE_6005_6006_5FEA_5FED_5FF8_6019⟩,
  ⟨0x6270, 0x6035_6026_601B_600F_600D_6029_602B_600A_603F_6021_6078_6079_607B_607A_6042_0000⟩,
  ⟨0x6320, 0x0000_606A_607D_6096_609A_60AD_609D_6083_6092_608C_609B_60EC_60BB_60B1_60DD_60D8⟩,
  ⟨0x6330, 0x60C6_60DA_60B4_6120_6126_6115_6123_60F4_6100_610E_612B_614A_6175_61AC_6194_61A7⟩,
  ⟨0x6340, 0x61B7_61D4_61F5_5FDD_96B3_95E9_95EB_95F1_95F3_95F5_95F6_95FC_95FE_9603_9604_9606⟩,
  ⟨0x6350, 0x9608_960A_960B_960C_960D_960F_9612_9615_9616_9617_9619_961A_4E2C_723F_6215_6C35⟩,
  ⟨0x6360, 0x6C54_6C5C_6C4A_6CA3_6C85_6C90_6C94_6C8C_6C68_6C69_6C74_6C76_6C86_6CA9_6CD0_6CD4⟩,
  ⟨0x6370, 0x6CAD_6CF7_6CF8_6CF1_6CD7_6CB2_6CE0_6CD6_6CFA_6CEB_6CEE_6CB1_6CD3_6CEF_6CFE_0000⟩,
  ⟨0x6420, 0x0000_6D39_6D27_6D0C_6D43_6D48_6D07_6D04_6D19_6D0E_6D2B_6D4D_6D2E_6D35_6D1A_6D4F⟩,
  ⟨0x6430, 0x6D52_6D54_6D33_6D91_6D6F_6D9E_6DA0_6D5E_6D93_6D94_6D5C_6D60_6D7C_6D63_6E1A_6DC7⟩,
  ⟨0x6440, 0x6DC5_6DDE_6E0E_6DBF_6DE0_6E11_6DE6_6DDD_6DD9_6E16_6DAB_6E0C_6DAE_6E2B_6E6E_6E4E⟩,
  ⟨0x6450, 0x6E6B_6EB2_6E5F_6E86_6E53_6E54_6E32_6E25_6E44_6EDF_6EB1_6E98_6EE0_6F2D_6EE2_6EA5⟩,
  ⟨0x6460, 0x6EA7_6EBD_6EBB_6EB7_6ED7_6EB4_6ECF_6E8F_6EC2_6E9F_6F62_6F46_6F47_6F24_6F15_6EF9⟩,
  ⟨0x6470, 0x6F2F_6F36_6F4B_6F74_6F2A_6F09_6F29_6F89_6F8D_6F8C_6F78_6F72_6F7C_6F7A_6FD1_0000⟩,
  ⟨0x6520, 0x0000_6FC9_6FA7_6FB9_6FB6_6FC2_6FE1_6FEE_6FDE_6FE0_6FEF_701A_7023_701B_7039_7035⟩,
  ⟨0x6530, 0x704F_705E_5B80_5B84_5B95_5B93_5BA5_5BB8_752F_9A9E_6434_5BE4_5BEE_8930_5BF0_8E47⟩,
  ⟨0x6540, 0x8B07_8FB6_8FD3_8FD5_8FE5_8FEE_8FE4_8FE9_8FE6_8FF3_8FE8_9005_9004_900B_9026_9011⟩,
  ⟨0x6550, 0x900D_9016_9021_9035_9036_902D_902F_9044_9051_9052_9050_9068_9058_9062_905B_66B9⟩,
  ⟨0x6560, 0x9074_907D_9082_9088_9083_908B_5F50_5F57_5F56_5F58_5C3B_54AB_5C50_5C59_5B71_5C63⟩,
  ⟨0x6570, 0x5C66_7FBC_5F2A_5F29_5F2D_8274_5F3C_9B3B_5C6E_5981_5983_598D_59A9_59AA_59A3_0000⟩,
  ⟨0x6620, 0x0000_5997_59CA_59AB_599E_59A4_59D2_59B2_59AF_59D7_59BE_5A05_5A06_59DD_5A08_59E3⟩,
  ⟨0x6630, 0x59D8_59F9_5A0C_5A09_5A32_5A34_5A11_5A23_5A13_5A40_5A67_5A4A_5A55_5A3C_5A62_5A75⟩,
  ⟨0x6640, 0x80EC_5AAA_5A9B_5A77_5A7A_5ABE_5AEB_5AB2_5AD2_5AD4_5AB8_5AE0_5AE3_5AF1_5AD6_5AE6⟩,
  ⟨0x6650, 0x5AD8_5ADC_5B09_5B17_5B16_5B32_5B37_5B40_5C15_5C1C_5B5A_5B65_5B73_5B51_5B53_5B62⟩,
  ⟨0x6660, 0x9A75_9A77_9A78_9A7A_9A7F_9A7D_9A80_9A81_9A85_9A88_9A8A_9A90_9A92_9A93_9A96_9A98⟩,
  ⟨0x6670, 0x9A9B_9A9C_9A9D_9A9F_9AA0_9AA2_9AA3_9AA5_9AA7_7E9F_7EA1_7EA3_7EA5_7EA8_7EA9_0000⟩,
  ⟨0x6720, 0x0000_7EAD_7EB0_7EBE_7EC0_7EC1_7EC2_7EC9_7ECB_7ECC_7ED0_7ED4_7ED7_7EDB_7EE0_7EE1⟩,
  ⟨0x6730, 0x7EE8_7EEB_7EEE_7EEF_7EF1_7EF2_7F0D_7EF6_7EFA_7EFB_7EFE_7F01_7F02_7F03_7F07_7F08⟩,
  ⟨0x6740, 0x7F0B_7F0C_7F0F_7F11_7F12_7F17_7F19_7F1C_7F1B_7F1F_7F21_7F22_7F23_7F24_7F25_7F26⟩,
  ⟨0x6750, 0x7F27_7F2A_7F2B_7F2C_7F2D_7F2F_7F30_7F31_7F32_7F33_7F35_5E7A_757F_5DDB_753E_9095⟩,
  ⟨0x6760, 0x738E_7391_73AE_73A2_739F_73CF_73C2_73D1_73B7_73B3_73C0_73C9_73C8_73E5_73D9_987C⟩,
  ⟨0x6770, 0x740A_73E9_73E7_73DE_73BA_73F2_740F_742A_745B_7426_7425_7428_7430_742E_742C_0000⟩,
  ⟨0x6820, 0x0000_741B_741A_7441_745C_7457_7455_7459_7477_746D_747E_749C_748E_7480_7481_7487⟩,
  ⟨0x6830, 0x748B_749E_74A8_74A9_7490_74A7_74D2_74BA_97EA_97EB_97EC_674C_6753_675E_6748_6769⟩,
  ⟨0x6840, 0x67A5_6787_676A_6773_6798_67A7_6775_67A8_679E_67AD_678B_6777_677C_67F0_6809_67D8⟩,
  ⟨0x6850, 0x680A_67E9_67B0_680C_67D9_67B5_67DA_67B3_67DD_6800_67C3_67B8_67E2_680E_67C1_67FD⟩,
  ⟨0x6860, 0x6832_6833_6860_6861_684E_6862_6844_6864_6883_681D_6855_6866_6841_6867_6840_683E⟩,
  ⟨0x6870, 0x684A_6849_6829_68B5_688F_6874_6877_6893_686B_68C2_696E_68FC_691F_6920_68F9_0000⟩,
  ⟨0x6920, 0x0000_6924_68F0_690B_6901_6957_68E3_6910_6971_6939_6960_6942_695D_6984_696B_6980⟩,
  ⟨0x6930, 0x6998_6978_6934_69CC_6987_6988_69CE_6989_6966_6963_6979_699B_69A7_69BB_69AB_69AD⟩,
  ⟨0x6940, 0x69D4_69B1_69C1_69CA_69DF_6995_69E0_698D_69FF_6A2F_69ED_6A17_6A18_6A65_69F2_6A44⟩,
  ⟨0x6950, 0x6A3E_6AA0_6A50_6A5B_6A35_6A8E_6A79_6A3D_6A28_6A58_6A7C_6A91_6A90_6AA9_6A97_6AAB⟩,
  ⟨0x6960, 0x7337_7352_6B81_6B82_6B87_6B84_6B92_6B93_6B8D_6B9A_6B9B_6BA1_6BAA_8F6B_8F6D_8F71⟩,
  ⟨0x6970, 0x8F72_8F73_8F75_8F76_8F78_8F77_8F79_8F7A_8F7C_8F7E_8F81_8F82_8F84_8F87_8F8B_0000⟩,
  ⟨0x6A20, 0x0000_8F8D_8F8E_8F8F_8F98_8F9A_8ECE_620B_6217_621B_621F_6222_6221_6225_6224_622C⟩,
  ⟨0x6A30, 0x81E7_74EF_74F4_74FF_750F_7511_7513_6534_65EE_65EF_65F0_660A_6619_6772_6603_6615⟩,
  ⟨0x6A40, 0x6600_7085_66F7_661D_6634_6631_6636_6635_8006_665F_6654_6641_664F_6656_6661_6657⟩,
  ⟨0x6A50, 0x6677_6684_668C_66A7_669D_66BE_66DB_66DC_66E6_66E9_8D32_8D33_8D36_8D3B_8D3D_8D40⟩,
  ⟨0x6A60, 0x8D45_8D46_8D48_8D49_8D47_8D4D_8D55_8D59_89C7_89CA_89CB_89CC_89CE_89CF_89D0_89D1⟩,
  ⟨0x6A70, 0x726E_729F_725D_7266_726F_727E_727F_7284_728B_728D_728F_7292_6308_6332_63B0_0000⟩,
  ⟨0x6B20, 0x0000_643F_64D8_8004_6BEA_6BF3_6BFD_6BF5_6BF9_6C05_6C07_6C06_6C0D_6C15_6C18_6C19⟩,
  ⟨0x6B30, 0x6C1A_6C21_6C29_6C24_6C2A_6C32_6535_6555_656B_724D_7252_7256_7230_8662_5216_809F⟩,
  ⟨0x6B40, 0x809C_8093_80BC_670A_80BD_80B1_80AB_80AD_80B4_80B7_80E7_80E8_80E9_80EA_80DB_80C2⟩,
  ⟨0x6B50, 0x80C4_80D9_80CD_80D7_6710_80DD_80EB_80F1_80F4_80ED_810D_810E_80F2_80FC_6715_8112⟩,
  ⟨0x6B60, 0x8C5A_8136_811E_812C_8118_8132_8148_814C_8153_8174_8159_815A_8171_8160_8169_817C⟩,
  ⟨0x6B70, 0x817D_816D_8167_584D_5AB5_8188_8182_8191_6ED5_81A3_81AA_81CC_6726_81CA_81BB_0000⟩,
  ⟨0x6C20, 0x0000_81C1_81A6_6B24_6B37_6B39_6B43_6B46_6B59_98D1_98D2_98D3_98D5_98D9_98DA_6BB3⟩,
  ⟨0x6C30, 0x5F40_6BC2_89F3_6590_9F51_6593_65BC_65C6_65C4_65C3_65CC_65CE_65D2_65D6_7080_709C⟩,
  ⟨0x6C40, 0x7096_709D_70BB_70C0_70B7_70AB_70B1_70E8_70CA_7110_7113_7116_712F_7131_7173_715C⟩,
  ⟨0x6C50, 0x7168_7145_7172_714A_7178_717A_7198_71B3_71B5_71A8_71A0_71E0_71D4_71E7_71F9_721D⟩,
  ⟨0x6C60, 0x7228_706C_7118_7166_71B9_623E_623D_6243_6248_6249_793B_7940_7946_7949_795B_795C⟩,
  ⟨0x6C70, 0x7953_795A_7962_7957_7960_796F_7967_797A_7985_798A_799A_79A7_79B3_5FD1_5FD0_0000⟩,
  ⟨0x6D20, 0x0000_603C_605D_605A_6067_6041_6059_6063_60AB_6106_610D_615D_61A9_619D_61CB_61D1⟩,
  ⟨0x6D30, 0x6206_8080_807F_6C93_6CF6_6DFC_77F6_77F8_7800_7809_7817_7818_7811_65AB_782D_781C⟩,
  ⟨0x6D40, 0x781D_7839_783A_783B_781F_783C_7825_782C_7823_7829_784E_786D_7856_7857_7826_7850⟩,
  ⟨0x6D50, 0x7847_784C_786A_789B_7893_789A_7887_789C_78A1_78A3_78B2_78B9_78A5_78D4_78D9_78C9⟩,
  ⟨0x6D60, 0x78EC_78F2_7905_78F4_7913_7924_791E_7934_9F9B_9EF9_9EFB_9EFC_76F1_7704_770D_76F9⟩,
  ⟨0x6D70, 0x7707_7708_771A_7722_7719_772D_7726_7735_7738_7750_7751_7747_7743_775A_7768_0000⟩,
  ⟨0x6E20, 0x0000_7762_7765_777F_778D_777D_7780_778C_7791_779F_77A0_77B0_77B5_77BD_753A_7540⟩,
  ⟨0x6E30, 0x754E_754B_7548_755B_7572_7579_7583_7F58_7F61_7F5F_8A48_7F68_7F74_7F71_7F79_7F81⟩,
  ⟨0x6E40, 0x7F7E_76CD_76E5_8832_9485_9486_9487_948B_948A_948C_948D_948F_9490_9494_9497_9495⟩,
  ⟨0x6E50, 0x949A_949B_949C_94A3_94A4_94AB_94AA_94AD_94AC_94AF_94B0_94B2_94B4_94B6_94B7_94B8⟩,
  ⟨0x6E60, 0x94B9_94BA_94BC_94BD_94BF_94C4_94C8_94C9_94CA_94CB_94CC_94CD_94CE_94D0_94D1_94D2⟩,
  ⟨0x6E70, 0x94D5_94D6_94D7_94D9_94D8_94DB_94DE_94DF_94E0_94E2_94E4_94E5_94E7_94E8_94EA_0000⟩,
  ⟨0x6F20, 0x0000_94E9_94EB_94EE_94EF_94F3_94F4_94F5_94F7_94F9_94FC_94FD_94FF_9503_9502_9506⟩,
  ⟨0x6F30, 0x9507_9509_950A_950D_950E_950F_9512_9513_9514_9515_9516_9518_951B_951D_951E_951F⟩,
  ⟨0x6F40, 0x9522_952A_952B_9529_952C_9531_9532_9534_9536_9537_9538_953C_953E_953F_9542_9535⟩,
  ⟨0x6F50, 0x9544_9545_9546_9549_954C_954E_954F_9552_9553_9554_9556_9557_9558_9559_955B_955E⟩,
  ⟨0x6F60, 0x955F_955D_9561_9562_9564_9565_9566_9567_9568_9569_956A_956B_956C_956F_9571_9572⟩,
  ⟨0x6F70, 0x9573_953A_77E7_77EC_96C9_79D5_79ED_79E3_79EB_7A06_5D47_7A03_7A02_7A1E_7A14_0000⟩,
  ⟨0x7020, 0x0000_7A39_7A37_7A51_9ECF_99A5_7A70_7688_768E_7693_7699_76A4_74DE_74E0_752C_9E20⟩,
  ⟨0x7030, 0x9E22_9E28_9E29_9E2A_9E2B_9E2C_9E32_9E31_9E36_9E38_9E37_9E39_9E3A_9E3E_9E41_9E42⟩,
  ⟨0x7040, 0x9E44_9E46_9E47_9E48_9E49_9E4B_9E4C_9E4E_9E51_9E55_9E57_9E5A_9E5B_9E5C_9E5E_9E63⟩,
  ⟨0x7050, 0x9E66_9E67_9E68_9E69_9E6A_9E6B_9E6C_9E71_9E6D_9E73_7592_7594_7596_75A0_759D_75AC⟩,
  ⟨0x7060, 0x75A3_75B3_75B4_75B8_75C4_75B1_75B0_75C3_75C2_75D6_75CD_75E3_75E8_75E6_75E4_75EB⟩,
  ⟨0x7070, 0x75E7_7603_75F1_75FC_75FF_7610_7600_7605_760C_7617_760A_7625_7618_7615_7619_0000⟩,
  ⟨0x7120, 0x0000_761B_763C_7622_7620_7640_762D_7630_763F_7635_7643_763E_7633_764D_765E_7654⟩,
  ⟨0x7130, 0x765C_7656_766B_766F_7FCA_7AE6_7A78_7A79_7A80_7A86_7A88_7A95_7AA6_7AA0_7AAC_7AA8⟩,
  ⟨0x7140, 0x7AAD_7AB3_8864_8869_8872_887D_887F_8882_88A2_88C6_88B7_88BC_88C9_88E2_88CE_88E3⟩,
  ⟨0x7150, 0x88E5_88F1_891A_88FC_88E8_88FE_88F0_8921_8919_8913_891B_890A_8934_892B_8936_8941⟩,
  ⟨0x7160, 0x8966_897B_758B_80E5_76B2_76B4_77DC_8012_8014_8016_801C_8020_8022_8025_8026_8027⟩,
  ⟨0x7170, 0x8029_8028_8031_800B_8035_8043_8046_804D_8052_8069_8071_8983_9878_9880_9883_0000⟩,
  ⟨0x7220, 0x0000_9889_988C_988D_988F_9894_989A_989B_989E_989F_98A1_98A2_98A5_98A6_864D_8654⟩,
  ⟨0x7230, 0x866C_866E_867F_867A_867C_867B_86A8_868D_868B_86AC_869D_86A7_86A3_86AA_8693_86A9⟩,
  ⟨0x7240, 0x86B6_86C4_86B5_86CE_86B0_86BA_86B1_86AF_86C9_86CF_86B4_86E9_86F1_86F2_86ED_86F3⟩,
  ⟨0x7250, 0x86D0_8713_86DE_86F4_86DF_86D8_86D1_8703_8707_86F8_8708_870A_870D_8709_8723_873B⟩,
  ⟨0x7260, 0x871E_8725_872E_871A_873E_8748_8734_8731_8729_8737_873F_8782_8722_877D_877E_877B⟩,
  ⟨0x7270, 0x8760_8770_874C_876E_878B_8753_8763_877C_8764_8759_8765_8793_87AF_87A8_87D2_0000⟩,
  ⟨0x7320, 0x0000_87C6_8788_8785_87AD_8797_8783_87AB_87E5_87AC_87B5_87B3_87CB_87D3_87BD_87D1⟩,
  ⟨0x7330, 0x87C0_87CA_87DB_87EA_87E0_87EE_8816_8813_87FE_880A_881B_8821_8839_883C_7F36_7F42⟩,
  ⟨0x7340, 0x7F44_7F45_8210_7AFA_7AFD_7B08_7B03_7B04_7B15_7B0A_7B2B_7B0F_7B47_7B38_7B2A_7B19⟩,
  ⟨0x7350, 0x7B2E_7B31_7B20_7B25_7B24_7B33_7B3E_7B1E_7B58_7B5A_7B45_7B75_7B4C_7B5D_7B60_7B6E⟩,
  ⟨0x7360, 0x7B7B_7B62_7B72_7B71_7B90_7BA6_7BA7_7BB8_7BAC_7B9D_7BA8_7B85_7BAA_7B9C_7BA2_7BAB⟩,
  ⟨0x7370, 0x7BB4_7BD1_7BC1_7BCC_7BDD_7BDA_7BE5_7BE6_7BEA_7C0C_7BFE_7BFC_7C0F_7C16_7C0B_0000⟩,
  ⟨0x7420, 0x0000_7C1F_7C2A_7C26_7C38_7C41_7C40_81FE_8201_8202_8204_81EC_8844_8221_8222_8223⟩,
  ⟨0x7430, 0x822D_822F_8228_822B_8238_823B_8233_8234_823E_8244_8249_824B_824F_825A_825F_8268⟩,
  ⟨0x7440, 0x887E_8885_8888_88D8_88DF_895E_7F9D_7F9F_7FA7_7FAF_7FB0_7FB2_7C7C_6549_7C91_7C9D⟩,
  ⟨0x7450, 0x7C9C_7C9E_7CA2_7CB2_7CBC_7CBD_7CC1_7CC7_7CCC_7CCD_7CC8_7CC5_7CD7_7CE8_826E_66A8⟩,
  ⟨0x7460, 0x7FBF_7FCE_7FD5_7FE5_7FE1_7FE6_7FE9_7FEE_7FF3_7CF8_7D77_7DA6_7DAE_7E47_7E9B_9EB8⟩,
  ⟨0x7470, 0x9EB4_8D73_8D84_8D94_8D91_8DB1_8D67_8D6D_8C47_8C49_914A_9150_914E_914F_9164_0000⟩,
  ⟨0x7520, 0x0000_9162_9161_9170_9169_916F_917D_917E_9172_9174_9179_918C_9185_9190_918D_9191⟩,
  ⟨0x7530, 0x91A2_91A3_91AA_91AD_91AE_91AF_91B5_91B4_91BA_8C55_9E7E_8DB8_8DEB_8E05_8E59_8E69⟩,
  ⟨0x7540, 0x8DB5_8DBF_8DBC_8DBA_8DC4_8DD6_8DD7_8DDA_8DDE_8DCE_8DCF_8DDB_8DC6_8DEC_8DF7_8DF8⟩,
  ⟨0x7550, 0x8DE3_8DF9_8DFB_8DE4_8E09_8DFD_8E14_8E1D_8E1F_8E2C_8E2E_8E23_8E2F_8E3A_8E40_8E39⟩,
  ⟨0x7560, 0x8E35_8E3D_8E31_8E49_8E41_8E42_8E51_8E52_8E4A_8E70_8E76_8E7C_8E6F_8E74_8E85_8E8F⟩,
  ⟨0x7570, 0x8E94_8E90_8E9C_8E9E_8C78_8C82_8C8A_8C85_8C98_8C94_659B_89D6_89DE_89DA_89DC_0000⟩,
  ⟨0x7620, 0x0000_89E5_89EB_89EF_8A3E_8B26_9753_96E9_96F3_96EF_9706_9701_9708_970F_970E_972A⟩,
  ⟨0x7630, 0x972D_9730_973E_9F80_9F83_9F85_9F86_9F87_9F88_9F89_9F8A_9F8C_9EFE_9F0B_9F0D_96B9⟩,
  ⟨0x7640, 0x96BC_96BD_96CE_96D2_77BF_96E0_928E_92AE_92C8_933E_936A_93CA_938F_943E_946B_9C7F⟩,
  ⟨0x7650, 0x9C82_9C85_9C86_9C87_9C88_7A23_9C8B_9C8E_9C90_9C91_9C92_9C94_9C95_9C9A_9C9B_9C9E⟩,
  ⟨0x7660, 0x9C9F_9CA0_9CA1_9CA2_9CA3_9CA5_9CA6_9CA7_9CA8_9CA9_9CAB_9CAD_9CAE_9CB0_9CB1_9CB2⟩,
  ⟨0x7670, 0x9CB3_9CB4_9CB5_9CB6_9CB7_9CBA_9CBB_9CBC_9CBD_9CC4_9CC5_9CC6_9CC7_9CCA_9CCB_0000⟩,
  ⟨0x7720, 0x0000_9CCC_9CCD_9CCE_9CCF_9CD0_9CD3_9CD4_9CD5_9CD7_9CD8_9CD9_9CDC_9CDD_9CDF_9CE2⟩,
  ⟨0x7730, 0x977C_9785_9791_9792_9794_97AF_97AB_97A3_97B2_97B4_9AB1_9AB0_9AB7_9E58_9AB6_9ABA⟩,
  ⟨0x7740, 0x9ABC_9AC1_9AC0_9AC5_9AC2_9ACB_9ACC_9AD1_9B45_9B43_9B47_9B49_9B48_9B4D_9B51_98E8⟩,
  ⟨0x7750, 0x990D_992E_9955_9954_9ADF_9AE1_9AE6_9AEF_9AEB_9AFB_9AED_9AF9_9B08_9B0F_9B13_9B1F⟩,
  ⟨0x7760, 0x9B23_9EBD_9EBE_7E3B_9E82_9E87_9E88_9E8B_9E92_93D6_9E9D_9E9F_9EDB_9EDC_9EDD_9EE0⟩,
  ⟨0x7770, 0x9EDF_9EE2_9EE9_9EE7_9EE5_9EEA_9EEF_9F22_9F2C_9F2F_9F39_9F37_9F3D_9F3E_9F44_0000⟩]

def gb2312 : CodeTable := .ofColumns gb2312Columns

end CodeExtension.Standard
