/-!
# Reports — symbol codes from F to K

Codes of symbols in alphabetical order. An entry is the code, a colon, and the
code points of the symbol in hexadecimal with hyphens between them.
-/

namespace LineMacro

namespace Report

namespace Symbol

/-- The codes from F to K, with their symbols. -/
def codesFToK : List String :=
  ["face_blowing_a_kiss:1F618 face_savoring_food:1F60B face_screaming_in_fear:1F631",
    "face_vomiting:1F92E face_with_hand_over_mouth:1F92D face_with_head-bandage:1F915",
    "face_with_head__bandage:1F915 face_with_medical_mask:1F637 face_with_monocle:1F9D0",
    "face_with_open_mouth:1F62E face_with_raised_eyebrow:1F928 face_with_rolling_eyes:1F644",
    "face_with_steam_from_nose:1F624 face_with_symbols_on_mouth:1F92C",
    "face_with_tears_of_joy:1F602 face_with_thermometer:1F912 face_with_tongue:1F61B",
    "face_without_mouth:1F636 facepunch:1F44A factory:1F3ED falafel:1F9C6",
    "falkland_islands:1F1EB-1F1F0 fallen_leaf:1F342 family:1F46A",
    "family_man_boy:1F468-200D-1F466 family_man_boy_boy:1F468-200D-1F466-200D-1F466",
    "family_man_girl:1F468-200D-1F467 family_man_girl_boy:1F468-200D-1F467-200D-1F466",
    "family_man_girl_girl:1F468-200D-1F467-200D-1F467",
    "family_man_man_boy:1F468-200D-1F468-200D-1F466",
    "family_man_man_boy_boy:1F468-200D-1F468-200D-1F466-200D-1F466",
    "family_man_man_girl:1F468-200D-1F468-200D-1F467",
    "family_man_man_girl_boy:1F468-200D-1F468-200D-1F467-200D-1F466",
    "family_man_man_girl_girl:1F468-200D-1F468-200D-1F467-200D-1F467",
    "family_man_woman_boy:1F468-200D-1F469-200D-1F466",
    "family_man_woman_boy_boy:1F468-200D-1F469-200D-1F466-200D-1F466",
    "family_man_woman_girl:1F468-200D-1F469-200D-1F467",
    "family_man_woman_girl_boy:1F468-200D-1F469-200D-1F467-200D-1F466",
    "family_man_woman_girl_girl:1F468-200D-1F469-200D-1F467-200D-1F467",
    "family_woman_boy:1F469-200D-1F466 family_woman_boy_boy:1F469-200D-1F466-200D-1F466",
    "family_woman_girl:1F469-200D-1F467 family_woman_girl_boy:1F469-200D-1F467-200D-1F466",
    "family_woman_girl_girl:1F469-200D-1F467-200D-1F467",
    "family_woman_woman_boy:1F469-200D-1F469-200D-1F466",
    "family_woman_woman_boy_boy:1F469-200D-1F469-200D-1F466-200D-1F466",
    "family_woman_woman_girl:1F469-200D-1F469-200D-1F467",
    "family_woman_woman_girl_boy:1F469-200D-1F469-200D-1F467-200D-1F466",
    "family_woman_woman_girl_girl:1F469-200D-1F469-200D-1F467-200D-1F467",
    "faroe_islands:1F1EB-1F1F4 fast-forward_button:23E9 fast_down_button:23EC fast_forward:23E9",
    "fast_reverse_button:23EA fast_up_button:23EB fax:1F4E0 fax_machine:1F4E0 fearful:1F628",
    "fearful_face:1F628 feet:1F43E female_sign:2640 ferris_wheel:1F3A1 ferry:26F4",
    "field_hockey:1F3D1 field_hockey_stick_and_ball:1F3D1 fiji:1F1EB-1F1EF file_cabinet:1F5C4",
    "file_folder:1F4C1 film_frames:1F39E film_projector:1F4FD finland:1F1EB-1F1EE fire:1F525",
    "fire_engine:1F692 fire_extinguisher:1F9EF firecracker:1F9E8 fireworks:1F386",
    "first_quarter_moon:1F313 first_quarter_moon_face:1F31B first_quarter_moon_with_face:1F31B",
    "fish:1F41F fish_cake:1F365 fish_cake_with_swirl:1F365 fishing_pole:1F3A3",
    "fishing_pole_and_fish:1F3A3 fist:270A five:35-FE0F-20E3 five-thirty:1F560",
    "five_o’clock:1F554 flag_for_afghanistan:1F1E6-1F1EB flag_for_albania:1F1E6-1F1F1",
    "flag_for_algeria:1F1E9-1F1FF flag_for_american_samoa:1F1E6-1F1F8",
    "flag_for_andorra:1F1E6-1F1E9 flag_for_angola:1F1E6-1F1F4 flag_for_anguilla:1F1E6-1F1EE",
    "flag_for_antarctica:1F1E6-1F1F6 flag_for_antigua_&_barbuda:1F1E6-1F1EC",
    "flag_for_argentina:1F1E6-1F1F7 flag_for_armenia:1F1E6-1F1F2 flag_for_aruba:1F1E6-1F1FC",
    "flag_for_ascension_island:1F1E6-1F1E8 flag_for_australia:1F1E6-1F1FA",
    "flag_for_austria:1F1E6-1F1F9 flag_for_azerbaijan:1F1E6-1F1FF flag_for_bahamas:1F1E7-1F1F8",
    "flag_for_bahrain:1F1E7-1F1ED flag_for_bangladesh:1F1E7-1F1E9 flag_for_barbados:1F1E7-1F1E7",
    "flag_for_belarus:1F1E7-1F1FE flag_for_belgium:1F1E7-1F1EA flag_for_belize:1F1E7-1F1FF",
    "flag_for_benin:1F1E7-1F1EF flag_for_bermuda:1F1E7-1F1F2 flag_for_bhutan:1F1E7-1F1F9",
    "flag_for_bolivia:1F1E7-1F1F4 flag_for_bosnia_&_herzegovina:1F1E7-1F1E6",
    "flag_for_botswana:1F1E7-1F1FC flag_for_bouvet_island:1F1E7-1F1FB",
    "flag_for_brazil:1F1E7-1F1F7 flag_for_british_indian_ocean_territory:1F1EE-1F1F4",
    "flag_for_british_virgin_islands:1F1FB-1F1EC flag_for_brunei:1F1E7-1F1F3",
    "flag_for_bulgaria:1F1E7-1F1EC flag_for_burkina_faso:1F1E7-1F1EB",
    "flag_for_burundi:1F1E7-1F1EE flag_for_cambodia:1F1F0-1F1ED flag_for_cameroon:1F1E8-1F1F2",
    "flag_for_canada:1F1E8-1F1E6 flag_for_canary_islands:1F1EE-1F1E8",
    "flag_for_cape_verde:1F1E8-1F1FB flag_for_caribbean_netherlands:1F1E7-1F1F6",
    "flag_for_cayman_islands:1F1F0-1F1FE flag_for_central_african_republic:1F1E8-1F1EB",
    "flag_for_ceuta_&_melilla:1F1EA-1F1E6 flag_for_chad:1F1F9-1F1E9 flag_for_chile:1F1E8-1F1F1",
    "flag_for_china:1F1E8-1F1F3 flag_for_christmas_island:1F1E8-1F1FD",
    "flag_for_clipperton_island:1F1E8-1F1F5 flag_for_cocos__islands:1F1E8-1F1E8",
    "flag_for_colombia:1F1E8-1F1F4 flag_for_comoros:1F1F0-1F1F2",
    "flag_for_congo____brazzaville:1F1E8-1F1EC flag_for_congo____kinshasa:1F1E8-1F1E9",
    "flag_for_cook_islands:1F1E8-1F1F0 flag_for_costa_rica:1F1E8-1F1F7",
    "flag_for_croatia:1F1ED-1F1F7 flag_for_cuba:1F1E8-1F1FA flag_for_curaçao:1F1E8-1F1FC",
    "flag_for_cyprus:1F1E8-1F1FE flag_for_czech_republic:1F1E8-1F1FF",
    "flag_for_côte_d’ivoire:1F1E8-1F1EE flag_for_denmark:1F1E9-1F1F0",
    "flag_for_diego_garcia:1F1E9-1F1EC flag_for_djibouti:1F1E9-1F1EF",
    "flag_for_dominica:1F1E9-1F1F2 flag_for_dominican_republic:1F1E9-1F1F4",
    "flag_for_ecuador:1F1EA-1F1E8 flag_for_egypt:1F1EA-1F1EC flag_for_el_salvador:1F1F8-1F1FB",
    "flag_for_equatorial_guinea:1F1EC-1F1F6 flag_for_eritrea:1F1EA-1F1F7",
    "flag_for_estonia:1F1EA-1F1EA flag_for_ethiopia:1F1EA-1F1F9",
    "flag_for_european_union:1F1EA-1F1FA flag_for_falkland_islands:1F1EB-1F1F0",
    "flag_for_faroe_islands:1F1EB-1F1F4 flag_for_fiji:1F1EB-1F1EF flag_for_finland:1F1EB-1F1EE",
    "flag_for_france:1F1EB-1F1F7 flag_for_french_guiana:1F1EC-1F1EB",
    "flag_for_french_polynesia:1F1F5-1F1EB flag_for_french_southern_territories:1F1F9-1F1EB",
    "flag_for_gabon:1F1EC-1F1E6 flag_for_gambia:1F1EC-1F1F2 flag_for_georgia:1F1EC-1F1EA",
    "flag_for_germany:1F1E9-1F1EA flag_for_ghana:1F1EC-1F1ED flag_for_gibraltar:1F1EC-1F1EE",
    "flag_for_greece:1F1EC-1F1F7 flag_for_greenland:1F1EC-1F1F1 flag_for_grenada:1F1EC-1F1E9",
    "flag_for_guadeloupe:1F1EC-1F1F5 flag_for_guam:1F1EC-1F1FA flag_for_guatemala:1F1EC-1F1F9",
    "flag_for_guernsey:1F1EC-1F1EC flag_for_guinea:1F1EC-1F1F3",
    "flag_for_guinea__bissau:1F1EC-1F1FC flag_for_guyana:1F1EC-1F1FE flag_for_haiti:1F1ED-1F1F9",
    "flag_for_heard_&_mcdonald_islands:1F1ED-1F1F2 flag_for_honduras:1F1ED-1F1F3",
    "flag_for_hong_kong:1F1ED-1F1F0 flag_for_hungary:1F1ED-1F1FA flag_for_iceland:1F1EE-1F1F8",
    "flag_for_india:1F1EE-1F1F3 flag_for_indonesia:1F1EE-1F1E9 flag_for_iran:1F1EE-1F1F7",
    "flag_for_iraq:1F1EE-1F1F6 flag_for_ireland:1F1EE-1F1EA flag_for_isle_of_man:1F1EE-1F1F2",
    "flag_for_israel:1F1EE-1F1F1 flag_for_italy:1F1EE-1F1F9 flag_for_jamaica:1F1EF-1F1F2",
    "flag_for_japan:1F1EF-1F1F5 flag_for_jersey:1F1EF-1F1EA flag_for_jordan:1F1EF-1F1F4",
    "flag_for_kazakhstan:1F1F0-1F1FF flag_for_kenya:1F1F0-1F1EA flag_for_kiribati:1F1F0-1F1EE",
    "flag_for_kosovo:1F1FD-1F1F0 flag_for_kuwait:1F1F0-1F1FC flag_for_kyrgyzstan:1F1F0-1F1EC",
    "flag_for_laos:1F1F1-1F1E6 flag_for_latvia:1F1F1-1F1FB flag_for_lebanon:1F1F1-1F1E7",
    "flag_for_lesotho:1F1F1-1F1F8 flag_for_liberia:1F1F1-1F1F7 flag_for_libya:1F1F1-1F1FE",
    "flag_for_liechtenstein:1F1F1-1F1EE flag_for_lithuania:1F1F1-1F1F9",
    "flag_for_luxembourg:1F1F1-1F1FA flag_for_macau:1F1F2-1F1F4 flag_for_macedonia:1F1F2-1F1F0",
    "flag_for_madagascar:1F1F2-1F1EC flag_for_malawi:1F1F2-1F1FC flag_for_malaysia:1F1F2-1F1FE",
    "flag_for_maldives:1F1F2-1F1FB flag_for_mali:1F1F2-1F1F1 flag_for_malta:1F1F2-1F1F9",
    "flag_for_marshall_islands:1F1F2-1F1ED flag_for_martinique:1F1F2-1F1F6",
    "flag_for_mauritania:1F1F2-1F1F7 flag_for_mauritius:1F1F2-1F1FA",
    "flag_for_mayotte:1F1FE-1F1F9 flag_for_mexico:1F1F2-1F1FD flag_for_micronesia:1F1EB-1F1F2",
    "flag_for_moldova:1F1F2-1F1E9 flag_for_monaco:1F1F2-1F1E8 flag_for_mongolia:1F1F2-1F1F3",
    "flag_for_montenegro:1F1F2-1F1EA flag_for_montserrat:1F1F2-1F1F8",
    "flag_for_morocco:1F1F2-1F1E6 flag_for_mozambique:1F1F2-1F1FF flag_for_myanmar:1F1F2-1F1F2",
    "flag_for_namibia:1F1F3-1F1E6 flag_for_nauru:1F1F3-1F1F7 flag_for_nepal:1F1F3-1F1F5",
    "flag_for_netherlands:1F1F3-1F1F1 flag_for_new_caledonia:1F1F3-1F1E8",
    "flag_for_new_zealand:1F1F3-1F1FF flag_for_nicaragua:1F1F3-1F1EE flag_for_niger:1F1F3-1F1EA",
    "flag_for_nigeria:1F1F3-1F1EC flag_for_niue:1F1F3-1F1FA flag_for_norfolk_island:1F1F3-1F1EB",
    "flag_for_north_korea:1F1F0-1F1F5 flag_for_northern_mariana_islands:1F1F2-1F1F5",
    "flag_for_norway:1F1F3-1F1F4 flag_for_oman:1F1F4-1F1F2 flag_for_pakistan:1F1F5-1F1F0",
    "flag_for_palau:1F1F5-1F1FC flag_for_palestinian_territories:1F1F5-1F1F8",
    "flag_for_panama:1F1F5-1F1E6 flag_for_papua_new_guinea:1F1F5-1F1EC",
    "flag_for_paraguay:1F1F5-1F1FE flag_for_peru:1F1F5-1F1EA flag_for_philippines:1F1F5-1F1ED",
    "flag_for_pitcairn_islands:1F1F5-1F1F3 flag_for_poland:1F1F5-1F1F1",
    "flag_for_portugal:1F1F5-1F1F9 flag_for_puerto_rico:1F1F5-1F1F7 flag_for_qatar:1F1F6-1F1E6",
    "flag_for_romania:1F1F7-1F1F4 flag_for_russia:1F1F7-1F1FA flag_for_rwanda:1F1F7-1F1FC",
    "flag_for_réunion:1F1F7-1F1EA flag_for_samoa:1F1FC-1F1F8 flag_for_san_marino:1F1F8-1F1F2",
    "flag_for_saudi_arabia:1F1F8-1F1E6 flag_for_senegal:1F1F8-1F1F3 flag_for_serbia:1F1F7-1F1F8",
    "flag_for_seychelles:1F1F8-1F1E8 flag_for_sierra_leone:1F1F8-1F1F1",
    "flag_for_singapore:1F1F8-1F1EC flag_for_sint_maarten:1F1F8-1F1FD",
    "flag_for_slovakia:1F1F8-1F1F0 flag_for_slovenia:1F1F8-1F1EE",
    "flag_for_solomon_islands:1F1F8-1F1E7 flag_for_somalia:1F1F8-1F1F4",
    "flag_for_south_africa:1F1FF-1F1E6",
    "flag_for_south_georgia_&_south_sandwich_islands:1F1EC-1F1F8",
    "flag_for_south_korea:1F1F0-1F1F7 flag_for_south_sudan:1F1F8-1F1F8",
    "flag_for_spain:1F1EA-1F1F8 flag_for_sri_lanka:1F1F1-1F1F0",
    "flag_for_st._barthélemy:1F1E7-1F1F1 flag_for_st._helena:1F1F8-1F1ED",
    "flag_for_st._kitts_&_nevis:1F1F0-1F1F3 flag_for_st._lucia:1F1F1-1F1E8",
    "flag_for_st._martin:1F1F2-1F1EB flag_for_st._pierre_&_miquelon:1F1F5-1F1F2",
    "flag_for_st._vincent_&_grenadines:1F1FB-1F1E8 flag_for_sudan:1F1F8-1F1E9",
    "flag_for_suriname:1F1F8-1F1F7 flag_for_svalbard_&_jan_mayen:1F1F8-1F1EF",
    "flag_for_swaziland:1F1F8-1F1FF flag_for_sweden:1F1F8-1F1EA",
    "flag_for_switzerland:1F1E8-1F1ED flag_for_syria:1F1F8-1F1FE",
    "flag_for_são_tomé_&_príncipe:1F1F8-1F1F9 flag_for_taiwan:1F1F9-1F1FC",
    "flag_for_tajikistan:1F1F9-1F1EF flag_for_tanzania:1F1F9-1F1FF",
    "flag_for_thailand:1F1F9-1F1ED flag_for_timor__leste:1F1F9-1F1F1 flag_for_togo:1F1F9-1F1EC",
    "flag_for_tokelau:1F1F9-1F1F0 flag_for_tonga:1F1F9-1F1F4",
    "flag_for_trinidad_&_tobago:1F1F9-1F1F9 flag_for_tristan_da_cunha:1F1F9-1F1E6",
    "flag_for_tunisia:1F1F9-1F1F3 flag_for_turkey:1F1F9-1F1F7 flag_for_turkmenistan:1F1F9-1F1F2",
    "flag_for_turks_&_caicos_islands:1F1F9-1F1E8 flag_for_tuvalu:1F1F9-1F1FB",
    "flag_for_u.s._outlying_islands:1F1FA-1F1F2 flag_for_u.s._virgin_islands:1F1FB-1F1EE",
    "flag_for_uganda:1F1FA-1F1EC flag_for_ukraine:1F1FA-1F1E6",
    "flag_for_united_arab_emirates:1F1E6-1F1EA flag_for_united_kingdom:1F1EC-1F1E7",
    "flag_for_united_states:1F1FA-1F1F8 flag_for_uruguay:1F1FA-1F1FE",
    "flag_for_uzbekistan:1F1FA-1F1FF flag_for_vanuatu:1F1FB-1F1FA",
    "flag_for_vatican_city:1F1FB-1F1E6 flag_for_venezuela:1F1FB-1F1EA",
    "flag_for_vietnam:1F1FB-1F1F3 flag_for_wallis_&_futuna:1F1FC-1F1EB",
    "flag_for_western_sahara:1F1EA-1F1ED flag_for_yemen:1F1FE-1F1EA flag_for_zambia:1F1FF-1F1F2",
    "flag_for_zimbabwe:1F1FF-1F1FC flag_for_åland_islands:1F1E6-1F1FD flag_in_hole:26F3",
    "flags:1F38F flamingo:1F9A9 flashlight:1F526 flat_shoe:1F97F fleur-de-lis:269C",
    "fleur__de__lis:269C flipper:1F42C floppy_disk:1F4BE flower_playing_cards:1F3B4",
    "flushed:1F633 flushed_face:1F633 flying_disc:1F94F flying_saucer:1F6F8 fog:1F32B",
    "foggy:1F301 foot:1F9B6 football:1F3C8 footprints:1F463 fork_and_knife:1F374",
    "fork_and_knife_with_plate:1F37D fortune_cookie:1F960 fountain:26F2 fountain_pen:1F58B",
    "four:34-FE0F-20E3 four-thirty:1F55F four_leaf_clover:1F340 four_o’clock:1F553",
    "fox_face:1F98A frame_with_picture:1F5BC framed_picture:1F5BC france:1F1EB-1F1F7 free:1F193",
    "free_button:1F193 french_fries:1F35F french_guiana:1F1EC-1F1EB",
    "french_polynesia:1F1F5-1F1EB french_southern_territories:1F1F9-1F1EB fried_shrimp:1F364",
    "fries:1F35F frog:1F438 frog_face:1F438 front-facing_baby_chick:1F425 frowning:1F626",
    "frowning_face:2639 frowning_face_with_open_mouth:1F626 fuel_pump:26FD fuelpump:26FD",
    "full_moon:1F315 full_moon_face:1F31D full_moon_with_face:1F31D funeral_urn:26B1",
    "gabon:1F1EC-1F1E6 gambia:1F1EC-1F1F2 game_die:1F3B2 garlic:1F9C4 gear:2699 gem:1F48E",
    "gem_stone:1F48E gemini:264A genie:1F9DE georgia:1F1EC-1F1EA germany:1F1E9-1F1EA",
    "ghana:1F1EC-1F1ED ghost:1F47B gibraltar:1F1EC-1F1EE gift:1F381 gift_heart:1F49D",
    "giraffe:1F992 glass_of_milk:1F95B glasses:1F453 globe_showing_americas:1F30E",
    "globe_showing_asia-australia:1F30F globe_showing_europe-africa:1F30D",
    "globe_with_meridians:1F310 gloves:1F9E4 glowing_star:1F31F goal_net:1F945 goat:1F410",
    "goblin:1F47A goggles:1F97D golf:26F3 golfer:1F3CC gorilla:1F98D graduation_cap:1F393",
    "grapes:1F347 greece:1F1EC-1F1F7 green_apple:1F34F green_book:1F4D7 green_circle:1F7E2",
    "green_heart:1F49A green_salad:1F957 green_square:1F7E9 greenland:1F1EC-1F1F1",
    "grenada:1F1EC-1F1E9 grey_exclamation:2755 grey_question:2754 grimacing:1F62C",
    "grimacing_face:1F62C grin:1F601 grinning:1F600 grinning_cat_face:1F63A",
    "grinning_cat_face_with_smiling_eyes:1F638 grinning_face:1F600",
    "grinning_face_with_big_eyes:1F603 grinning_face_with_smiling_eyes:1F604",
    "grinning_face_with_sweat:1F605 grinning_squinting_face:1F606 growing_heart:1F497",
    "guadeloupe:1F1EC-1F1F5 guam:1F1EC-1F1FA guardsman:1F482 guatemala:1F1EC-1F1F9",
    "guernsey:1F1EC-1F1EC guide_dog:1F9AE guinea:1F1EC-1F1F3 guinea-bissau:1F1EC-1F1FC",
    "guitar:1F3B8 gun:1F52B guyana:1F1EC-1F1FE haircut:1F487 haiti:1F1ED-1F1F9 hamburger:1F354",
    "hammer:1F528 hammer_and_pick:2692 hammer_and_wrench:1F6E0 hamster:1F439 hamster_face:1F439",
    "hand:270B handbag:1F45C handshake:1F91D hankey:1F4A9 hatched_chick:1F425",
    "hatching_chick:1F423 headphone:1F3A7 headphones:1F3A7 hear-no-evil_monkey:1F649",
    "hear_no_evil:1F649 heard_&_mcdonald_islands:1F1ED-1F1F2 heart:2764 heart_decoration:1F49F",
    "heart_eyes:1F60D heart_eyes_cat:1F63B heart_suit:2665 heart_with_arrow:1F498",
    "heart_with_ribbon:1F49D heartbeat:1F493 heartpulse:1F497 hearts:2665 heavy_check_mark:2714",
    "heavy_division_sign:2797 heavy_dollar_sign:1F4B2 heavy_exclamation_mark:2757",
    "heavy_heart_exclamation:2763 heavy_heart_exclamation_mark_ornament:2763",
    "heavy_large_circle:2B55 heavy_minus_sign:2796 heavy_multiplication_x:2716",
    "heavy_plus_sign:2795 hedgehog:1F994 helicopter:1F681 helm_symbol:2388",
    "helmet_with_white_cross:26D1 herb:1F33F hibiscus:1F33A high-heeled_shoe:1F460",
    "high-speed_train:1F684 high_brightness:1F506 high_heel:1F460 high_voltage:26A1",
    "hiking_boot:1F97E hindu_temple:1F6D5 hippopotamus:1F99B hocho:1F52A hole:1F573",
    "honduras:1F1ED-1F1F3 honey_pot:1F36F honeybee:1F41D hong_kong_sar_china:1F1ED-1F1F0",
    "horizontal_traffic_light:1F6A5 horse:1F434 horse_face:1F434 hospital:1F3E5",
    "hot_beverage:2615 hot_dog:1F32D hot_face:1F975 hot_pepper:1F336 hot_springs:2668",
    "hotel:1F3E8 hotsprings:2668 hourglass:231B hourglass_done:231B hourglass_flowing_sand:23F3",
    "hourglass_not_done:23F3 house:1F3E0 house_buildings:1F3D8 house_with_garden:1F3E1",
    "houses:1F3D8 hugging_face:1F917 hundred_points:1F4AF hungary:1F1ED-1F1FA hushed:1F62F",
    "hushed_face:1F62F ice:1F9CA ice_cream:1F368 ice_hockey:1F3D2",
    "ice_hockey_stick_and_puck:1F3D2 ice_skate:26F8 icecream:1F366 iceland:1F1EE-1F1F8 id:1F194",
    "id_button:1F194 ideograph_advantage:1F250 imp:1F47F inbox_tray:1F4E5",
    "incoming_envelope:1F4E8 india:1F1EE-1F1F3 indonesia:1F1EE-1F1E9 infinity:267E",
    "information:2139 information_desk_person:1F481 information_source:2139 innocent:1F607",
    "input_latin_letters:1F524 input_latin_lowercase:1F521 input_latin_uppercase:1F520",
    "input_numbers:1F522 input_symbols:1F523 interrobang:2049 iphone:1F4F1 iran:1F1EE-1F1F7",
    "iraq:1F1EE-1F1F6 ireland:1F1EE-1F1EA isle_of_man:1F1EE-1F1F2 israel:1F1EE-1F1F1",
    "italy:1F1EE-1F1F9 izakaya_lantern:1F3EE jack-o-lantern:1F383 jack_o_lantern:1F383",
    "jamaica:1F1EF-1F1F2 japan:1F5FE japanese_acceptable_button:1F251",
    "japanese_application_button:1F238 japanese_bargain_button:1F250 japanese_castle:1F3EF",
    "japanese_congratulations_button:3297 japanese_discount_button:1F239 japanese_dolls:1F38E",
    "japanese_free_of_charge_button:1F21A japanese_goblin:1F47A japanese_here_button:1F201",
    "japanese_monthly_amount_button:1F237 japanese_no_vacancy_button:1F235",
    "japanese_not_free_of_charge_button:1F236 japanese_ogre:1F479",
    "japanese_open_for_business_button:1F23A japanese_passing_grade_button:1F234",
    "japanese_post_office:1F3E3 japanese_prohibited_button:1F232 japanese_reserved_button:1F22F",
    "japanese_secret_button:3299 japanese_service_charge_button:1F202",
    "japanese_symbol_for_beginner:1F530 japanese_vacancy_button:1F233 jeans:1F456",
    "jersey:1F1EF-1F1EA jigsaw:1F9E9 joker:1F0CF jordan:1F1EF-1F1F4 joy:1F602 joy_cat:1F639",
    "joystick:1F579 kaaba:1F54B kangaroo:1F998 kazakhstan:1F1F0-1F1FF kenya:1F1F0-1F1EA",
    "key:1F511 keyboard:2328 keycap_#:23-FE0F-20E3 keycap_*:2A-FE0F-20E3 keycap_0:30-FE0F-20E3",
    "keycap_1:31-FE0F-20E3 keycap_10:1F51F keycap_2:32-FE0F-20E3 keycap_3:33-FE0F-20E3",
    "keycap_4:34-FE0F-20E3 keycap_5:35-FE0F-20E3 keycap_6:36-FE0F-20E3 keycap_7:37-FE0F-20E3",
    "keycap_8:38-FE0F-20E3 keycap_9:39-FE0F-20E3 keycap_asterisk:2A-20E3",
    "keycap_digit_eight:38-20E3 keycap_digit_five:35-20E3 keycap_digit_four:34-20E3",
    "keycap_digit_nine:39-20E3 keycap_digit_one:31-20E3 keycap_digit_seven:37-20E3",
    "keycap_digit_six:36-20E3 keycap_digit_three:33-20E3 keycap_digit_two:32-20E3",
    "keycap_digit_zero:30-20E3 keycap_number_sign:23-20E3 kick_scooter:1F6F4 kimono:1F458",
    "kiribati:1F1F0-1F1EE kiss:1F48B kiss_man_man:1F468-200D-2764-FE0F-200D-1F48B-200D-1F468",
    "kiss_mark:1F48B kiss_woman_man:1F469-200D-2764-FE0F-200D-1F48B-200D-1F468",
    "kiss_woman_woman:1F469-200D-2764-FE0F-200D-1F48B-200D-1F469 kissing:1F617",
    "kissing_cat:1F63D kissing_cat_face:1F63D kissing_closed_eyes:1F61A kissing_face:1F617",
    "kissing_face_with_closed_eyes:1F61A kissing_face_with_smiling_eyes:1F619",
    "kissing_heart:1F618 kissing_smiling_eyes:1F619 kitchen_knife:1F52A kite:1FA81",
    "kiwi_fruit:1F95D knife:1F52A koala:1F428 koko:1F201 kosovo:1F1FD-1F1F0 kuwait:1F1F0-1F1FC",
    "kyrgyzstan:1F1F0-1F1EC"]

end Symbol

end Report

end LineMacro
