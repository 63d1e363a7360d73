/-!
# Reports — symbol codes from S to Z

Codes of symbols in alphabetical order. An entry is the code, a colon, and the
code points of the symbol in hexadecimal with hyphens between them.
The one that starts with å comes last.
-/

namespace LineMacro

namespace Report

namespace Symbol

/-- The codes from S to Z, with their symbols. -/
def codesSToZ : List String :=
  ["sa:1F202 sad_but_relieved_face:1F625 safety_pin:1F9F7 safety_vest:1F9BA sagittarius:2650",
    "sailboat:26F5 sake:1F376 salt:1F9C2 samoa:1F1FC-1F1F8 san_marino:1F1F8-1F1F2 sandal:1F461",
    "sandwich:1F96A santa:1F385 sari:1F97B satellite:1F4E1 satellite_antenna:1F4E1",
    "satisfied:1F606 saudi_arabia:1F1F8-1F1E6 sauropod:1F995 saxophone:1F3B7 scales:2696",
    "scarf:1F9E3 school:1F3EB school_backpack:1F392 school_satchel:1F392 scissors:2702",
    "scorpio:264F scorpion:1F982 scorpius:264F",
    "scotland:1F3F4-E0067-E0062-E0073-E0063-E0074-E007F scream:1F631 scream_cat:1F640",
    "scroll:1F4DC seat:1F4BA secret:3299 see-no-evil_monkey:1F648 see_no_evil:1F648",
    "seedling:1F331 senegal:1F1F8-1F1F3 serbia:1F1F7-1F1F8 service_dog:1F415-200D-1F9BA",
    "seven:37-FE0F-20E3 seven-thirty:1F562 seven_o’clock:1F556 seychelles:1F1F8-1F1E8",
    "shallow_pan_of_food:1F958 shamrock:2618 shark:1F988 shaved_ice:1F367 sheaf_of_rice:1F33E",
    "sheep:1F411 shell:1F41A shield:1F6E1 shinto_shrine:26E9 ship:1F6A2 shirt:1F455 shit:1F4A9",
    "shoe:1F45E shooting_star:1F320 shopping_bags:1F6CD shopping_cart:1F6D2 shortcake:1F370",
    "shorts:1FA73 shower:1F6BF shrimp:1F990 shuffle_tracks_button:1F500 shushing_face:1F92B",
    "sierra_leone:1F1F8-1F1F1 signal_strength:1F4F6 singapore:1F1F8-1F1EC",
    "sint_maarten:1F1F8-1F1FD six:36-FE0F-20E3 six-thirty:1F561 six_o’clock:1F555",
    "six_pointed_star:1F52F skateboard:1F6F9 ski:1F3BF skier:26F7 skis:1F3BF skull:1F480",
    "skull_and_crossbones:2620 skunk:1F9A8 sled:1F6F7 sleeping:1F634",
    "sleeping_accommodation:1F6CC sleeping_face:1F634 sleepy:1F62A sleepy_face:1F62A",
    "sleuth_or_spy:1F575 slightly_frowning_face:1F641 slightly_smiling_face:1F642",
    "slot_machine:1F3B0 sloth:1F9A5 slovakia:1F1F8-1F1F0 slovenia:1F1F8-1F1EE",
    "small_airplane:1F6E9 small_blue_diamond:1F539 small_orange_diamond:1F538",
    "small_red_triangle:1F53A small_red_triangle_down:1F53B smile:1F604 smile_cat:1F638",
    "smiley:1F603 smiley_cat:1F63A smiling_cat_face_with_heart-eyes:1F63B smiling_face:263A",
    "smiling_face_with_3_hearts:1F970 smiling_face_with_halo:1F607",
    "smiling_face_with_heart-eyes:1F60D smiling_face_with_horns:1F608",
    "smiling_face_with_smiling_eyes:1F60A smiling_face_with_sunglasses:1F60E smiling_imp:1F608",
    "smirk:1F60F smirk_cat:1F63C smirking_face:1F60F smoking:1F6AC snail:1F40C snake:1F40D",
    "sneezing_face:1F927 snow-capped_mountain:1F3D4 snow_capped_mountain:1F3D4 snowflake:2744",
    "snowman:2603 snowman_without_snow:26C4 soap:1F9FC sob:1F62D soccer:26BD soccer_ball:26BD",
    "socks:1F9E6 soft_ice_cream:1F366 softball:1F94E solomon_islands:1F1F8-1F1E7",
    "somalia:1F1F8-1F1F4 soon:1F51C soon_arrow:1F51C sos:1F198 sos_button:1F198 sound:1F509",
    "south_africa:1F1FF-1F1E6 south_georgia_&_south_sandwich_islands:1F1EC-1F1F8",
    "south_korea:1F1F0-1F1F7 south_sudan:1F1F8-1F1F8 space_invader:1F47E spade_suit:2660",
    "spades:2660 spaghetti:1F35D spain:1F1EA-1F1F8 sparkle:2747 sparkler:1F387 sparkles:2728",
    "sparkling_heart:1F496 speak-no-evil_monkey:1F64A speak_no_evil:1F64A speaker:1F508",
    "speaker_high_volume:1F50A speaker_low_volume:1F508 speaker_medium_volume:1F509",
    "speaking_head:1F5E3 speaking_head_in_silhouette:1F5E3 speech_balloon:1F4AC speedboat:1F6A4",
    "spider:1F577 spider_web:1F578 spiral_calendar:1F5D3 spiral_calendar_pad:1F5D3",
    "spiral_note_pad:1F5D2 spiral_notepad:1F5D2 spiral_shell:1F41A sponge:1F9FD spoon:1F944",
    "sport_utility_vehicle:1F699 sports_medal:1F3C5 spouting_whale:1F433 squid:1F991",
    "squinting_face_with_tongue:1F61D sri_lanka:1F1F1-1F1F0 st._barthélemy:1F1E7-1F1F1",
    "st._helena:1F1F8-1F1ED st._kitts_&_nevis:1F1F0-1F1F3 st._lucia:1F1F1-1F1E8",
    "st._martin:1F1F2-1F1EB st._pierre_&_miquelon:1F1F5-1F1F2",
    "st._vincent_&_grenadines:1F1FB-1F1E8 stadium:1F3DF star:2B50 star-struck:1F929 star2:1F31F",
    "star_and_crescent:262A star_of_david:2721 stars:1F320 station:1F689",
    "statue_of_liberty:1F5FD steam_locomotive:1F682 steaming_bowl:1F35C stethoscope:1FA7A",
    "stew:1F372 stop_button:23F9 stop_sign:1F6D1 stopwatch:23F1 straight_ruler:1F4CF",
    "strawberry:1F353 stuck_out_tongue:1F61B stuck_out_tongue_closed_eyes:1F61D",
    "stuck_out_tongue_winking_eye:1F61C studio_microphone:1F399 stuffed_flatbread:1F959",
    "sudan:1F1F8-1F1E9 sun:2600 sun_behind_cloud:26C5 sun_behind_large_cloud:1F325",
    "sun_behind_rain_cloud:1F326 sun_behind_small_cloud:1F324 sun_with_face:1F31E",
    "sunflower:1F33B sunglasses:1F60E sunny:2600 sunrise:1F305 sunrise_over_mountains:1F304",
    "sunset:1F307 superhero:1F9B8 supervillain:1F9B9 surfer:1F3C4 suriname:1F1F8-1F1F7",
    "sushi:1F363 suspension_railway:1F69F svalbard_&_jan_mayen:1F1F8-1F1EF swan:1F9A2",
    "swaziland:1F1F8-1F1FF sweat:1F613 sweat_droplets:1F4A6 sweat_drops:1F4A6 sweat_smile:1F605",
    "sweden:1F1F8-1F1EA sweet_potato:1F360 swimmer:1F3CA switzerland:1F1E8-1F1ED symbols:1F523",
    "synagogue:1F54D syria:1F1F8-1F1FE syringe:1F489 são_tomé_&_príncipe:1F1F8-1F1F9",
    "t-rex:1F996 t-shirt:1F455 table_tennis_paddle_and_ball:1F3D3 taco:1F32E tada:1F389",
    "taiwan:1F1F9-1F1FC tajikistan:1F1F9-1F1EF takeout_box:1F961 tanabata_tree:1F38B",
    "tangerine:1F34A tanzania:1F1F9-1F1FF taurus:2649 taxi:1F695 tea:1F375",
    "teacup_without_handle:1F375 tear-off_calendar:1F4C6 teddy_bear:1F9F8 telephone:260E",
    "telephone_receiver:1F4DE telescope:1F52D television:1F4FA ten:1F51F ten-thirty:1F565",
    "ten_o’clock:1F559 tennis:1F3BE tent:26FA test_tube:1F9EA thailand:1F1F9-1F1ED",
    "thermometer:1F321 thinking_face:1F914 thought_balloon:1F4AD thread:1F9F5",
    "three:33-FE0F-20E3 three-thirty:1F55E three_button_mouse:1F5B1 three_o’clock:1F552",
    "thumbsdown:1F44E thumbsup:1F44D thunder_cloud_and_rain:26C8 ticket:1F3AB tiger:1F42F",
    "tiger2:1F405 tiger_face:1F42F timer_clock:23F2 timor-leste:1F1F9-1F1F1 tired_face:1F62B",
    "tm:2122 togo:1F1F9-1F1EC toilet:1F6BD tokelau:1F1F9-1F1F0 tokyo_tower:1F5FC tomato:1F345",
    "tonga:1F1F9-1F1F4 tongue:1F445 toolbox:1F9F0 tooth:1F9B7 top:1F51D top_arrow:1F51D",
    "top_hat:1F3A9 tophat:1F3A9 tornado:1F32A trackball:1F5B2 tractor:1F69C trade_mark:2122",
    "traffic_light:1F6A5 train:1F68B train2:1F686 tram:1F68A tram_car:1F68B",
    "triangular_flag:1F6A9 triangular_flag_on_post:1F6A9 triangular_ruler:1F4D0 trident:1F531",
    "trident_emblem:1F531 trinidad_&_tobago:1F1F9-1F1F9 tristan_da_cunha:1F1F9-1F1E6",
    "triumph:1F624 trolleybus:1F68E trophy:1F3C6 tropical_drink:1F379 tropical_fish:1F420",
    "truck:1F69A trumpet:1F3BA tshirt:1F455 tulip:1F337 tumbler_glass:1F943 tunisia:1F1F9-1F1F3",
    "turkey:1F983 turkmenistan:1F1F9-1F1F2 turks_&_caicos_islands:1F1F9-1F1E8 turtle:1F422",
    "tuvalu:1F1F9-1F1FB tv:1F4FA twelve-thirty:1F567 twelve_o’clock:1F55B",
    "twisted_rightwards_arrows:1F500 two:32-FE0F-20E3 two-hump_camel:1F42B two-thirty:1F55D",
    "two_hearts:1F495 two_men_holding_hands:1F46C two_o’clock:1F551",
    "two_women_holding_hands:1F46D u.s._outlying_islands:1F1FA-1F1F2",
    "u.s._virgin_islands:1F1FB-1F1EE u5272:1F239 u5408:1F234 u55b6:1F23A u6307:1F22F",
    "u6708:1F237 u6709:1F236 u6e80:1F235 u7121:1F21A u7533:1F238 u7981:1F232 u7a7a:1F233",
    "uganda:1F1FA-1F1EC ukraine:1F1FA-1F1E6 umbrella:2602 umbrella_on_ground:26F1",
    "umbrella_with_rain_drops:2614 unamused:1F612 unamused_face:1F612 underage:1F51E",
    "unicorn_face:1F984 united_arab_emirates:1F1E6-1F1EA united_kingdom:1F1EC-1F1E7",
    "united_nations:1F1FA-1F1F3 united_states:1F1FA-1F1F8 unlock:1F513 unlocked:1F513 up:1F199",
    "up!_button:1F199 up-down_arrow:2195 up-left_arrow:2196 up-right_arrow:2197 up_arrow:2B06",
    "upside-down_face:1F643 upside__down_face:1F643 upwards_button:1F53C uruguay:1F1FA-1F1FE",
    "uzbekistan:1F1FA-1F1FF v:270C vanuatu:1F1FB-1F1FA vatican_city:1F1FB-1F1E6",
    "venezuela:1F1FB-1F1EA vertical_traffic_light:1F6A6 vhs:1F4FC vibration_mode:1F4F3",
    "video_camera:1F4F9 video_game:1F3AE videocassette:1F4FC vietnam:1F1FB-1F1F3 violin:1F3BB",
    "virgo:264D volcano:1F30B volleyball:1F3D0 vs:1F19A vs_button:1F19A waffle:1F9C7",
    "wales:1F3F4-E0067-E0062-E0077-E006C-E0073-E007F walking:1F6B6 wallis_&_futuna:1F1FC-1F1EB",
    "waning_crescent_moon:1F318 waning_gibbous_moon:1F316 warning:26A0 wastebasket:1F5D1",
    "watch:231A water_buffalo:1F403 water_closet:1F6BE water_wave:1F30A watermelon:1F349",
    "wave:1F44B waving_black_flag:1F3F4 waving_white_flag:1F3F3 wavy_dash:3030",
    "waxing_crescent_moon:1F312 waxing_gibbous_moon:1F314 wc:1F6BE weary:1F629",
    "weary_cat_face:1F640 weary_face:1F629 wedding:1F492 weight_lifter:1F3CB",
    "western_sahara:1F1EA-1F1ED whale:1F433 whale2:1F40B wheel_of_dharma:2638 wheelchair:267F",
    "wheelchair_symbol:267F white-haired_man:1F468-200D-1F9B3",
    "white-haired_woman:1F469-200D-1F9B3 white_check_mark:2705 white_circle:26AA",
    "white_exclamation_mark:2755 white_flag:1F3F3 white_flower:1F4AE white_frowning_face:2639",
    "white_hair:1F9B3 white_heart:1F90D white_heavy_check_mark:2705 white_large_square:2B1C",
    "white_medium-small_square:25FD white_medium_small_square:25FD white_medium_square:25FB",
    "white_medium_star:2B50 white_question_mark:2754 white_small_square:25AB",
    "white_square_button:1F533 white_sun_behind_cloud:1F325",
    "white_sun_behind_cloud_with_rain:1F326 white_sun_with_small_cloud:1F324",
    "wilted_flower:1F940 wind_blowing_face:1F32C wind_chime:1F390 wind_face:1F32C",
    "wine_glass:1F377 wink:1F609 winking_face:1F609 winking_face_with_tongue:1F61C wolf:1F43A",
    "wolf_face:1F43A woman_genie:1F9DE-200D-2640-FE0F",
    "woman_in_manual_wheelchair:1F469-200D-1F9BD woman_in_motorized_wheelchair:1F469-200D-1F9BC",
    "woman_with_probing_cane:1F469-200D-1F9AF woman_zombie:1F9DF-200D-2640-FE0F",
    "womans_clothes:1F45A womans_hat:1F452 woman’s_boot:1F462 woman’s_clothes:1F45A",
    "woman’s_hat:1F452 woman’s_sandal:1F461 women_with_bunny_ears:1F46F-200D-2640-FE0F",
    "women_wrestling:1F93C-200D-2640-FE0F womens:1F6BA women’s_room:1F6BA woozy_face:1F974",
    "world_map:1F5FA worried:1F61F worried_face:1F61F wrapped_gift:1F381 wrench:1F527 x:274C",
    "yarn:1F9F6 yawning_face:1F971 yellow_circle:1F7E1 yellow_heart:1F49B yellow_square:1F7E8",
    "yemen:1F1FE-1F1EA yen:1F4B4 yen_banknote:1F4B4 yin_yang:262F yo-yo:1FA80 yum:1F60B",
    "zambia:1F1FF-1F1F2 zany_face:1F92A zap:26A1 zebra:1F993 zero:30-FE0F-20E3",
    "zimbabwe:1F1FF-1F1FC zipper-mouth_face:1F910 zipper__mouth_face:1F910 zombie:1F9DF",
    "zzz:1F4A4 åland_islands:1F1E6-1F1FD"]

end Symbol

end Report

end LineMacro
